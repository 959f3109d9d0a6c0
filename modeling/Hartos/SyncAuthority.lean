import Hartos.StepSystem
import Hartos.SyncedRows

/-!
What sync items may do to the accounts and memberships a node already has, and to the
accounts they create.
-/
namespace Hartos.Sync
open KeyedTable StepSystem

/-- What every sync item must leave as it is: roles that give authority, credentials, the
kind of an account, and who owns an account that is no agent. -/
structure Kept (old new : Account) : Prop where
  role : Privileged old.role ∨ Privileged new.role → new.role = old.role
  flags : new.isAdmin = old.isAdmin ∧ new.isModerator = old.isModerator
  verified : new.isVerified = old.isVerified
  userType : new.userType = old.userType
  credentials : new.apiToken = old.apiToken ∧ new.passwordHash = old.passwordHash
  owner : old.userType ≠ "agent" → new.ownerId = old.ownerId ∧ new.agentId = old.agentId

structure Mirror (new : Account) : Prop where
  role : ¬ Privileged new.role
  flags : new.isAdmin = false ∧ new.isModerator = false
  verified : new.isVerified = false
  agent : new.userType = "agent" → new.apiToken = none

def moderatingRoles : List String := ["moderator", "admin"]

def Moderating (role : Option String) : Prop := ∃ name ∈ moderatingRoles, role = some name

instance : DecidablePred Moderating := fun role =>
  inferInstanceAs (Decidable (∃ name ∈ moderatingRoles, role = some name))

structure Lawful (before after : Store) : Prop where
  kept : ∀ old, before.accounts.get? old.id = some old →
    ∃ new, after.accounts.get? old.id = some new ∧ Kept old new
  made : ∀ new, after.accounts.get? new.id = some new → before.accounts.get? new.id = none →
    Mirror new
  members : ∀ old ∈ before.memberships.rows, ∀ new ∈ after.memberships.rows,
    new.id = old.id ∨ new.member = old.member → Moderating new.role → new.role = old.role

def AgentPayload.Safe (payload : AgentPayload) (accounts : Table Account.id) : Prop :=
  ∀ id ∈ payload.target, ∀ existing ∈ accounts.get? id, existing.userType ≠ "agent" →
    payload.agent.ownerId.or existing.ownerId = existing.ownerId ∧
      payload.agent.agentId.or existing.agentId = existing.agentId

def UserPayload.Safe (payload : UserPayload) (accounts : Table Account.id) : Prop :=
  ∀ id ∈ payload.target, accounts.get? id = none → payload.userType ≠ some "agent"

def MembershipData.Safe (data : MembershipData) (memberships : Table Membership.id) : Prop :=
  ∀ row ∈ data.written memberships, ¬ Taken memberships row →
    ∀ existing ∈ memberships.get? row.id, Moderating row.role → row.role = existing.role

def LeavesAuthority (store : Store) : SyncItem → Prop
  | .registerAgent payload => payload.Safe store.accounts
  | .syncUser payload _ => payload.Safe store.accounts
  | .syncMembership data => data.Safe store.memberships
  | .other => True

theorem Kept.refl (account : Account) : Kept account account :=
  ⟨fun _ => rfl, ⟨rfl, rfl⟩, rfl, rfl, ⟨rfl, rfl⟩, fun _ => ⟨rfl, rfl⟩⟩

variable (agent : AgentFields) (store : Store)

-- Two memberships of one row, or of one member, are the same.
theorem Store.same_membership (old new : Membership) (held : old ∈ store.memberships.rows)
    (also : new ∈ store.memberships.rows) (same : new.id = old.id ∨ new.member = old.member) :
    new = old := by
  rcases same with row | member
  · have first := (store.memberships.mem_rows old).mp held
    have second := (store.memberships.mem_rows new).mp also
    rw [row, first, Option.some.injEq] at second
    exact second.symm
  · exact store.oneEach new also old held member

theorem Lawful.refl : Lawful store store := by
  constructor
  · intro old held
    exact ⟨old, held, Kept.refl old⟩
  · intro new held absent
    rw [held] at absent
    cases absent
  · intro old held new also same _
    rw [store.same_membership old new held also same]

-- Writing one account is lawful when the row written follows from the one there was.
theorem lawful_account_iff (row : Account) :
    Lawful store { store with accounts := store.accounts.set row } ↔
      (∀ old, store.accounts.get? row.id = some old → Kept old row) ∧
        (store.accounts.get? row.id = none → Mirror row) := by
  constructor
  · intro lawful
    constructor
    · intro old held
      have sameId := store.accounts.get?_key row.id old held
      obtain ⟨new, written, kept⟩ := lawful.kept old (sameId ▸ held)
      rw [sameId, Table.get?_set_self, Option.some.injEq] at written
      exact written ▸ kept
    · intro absent
      exact lawful.made row (store.accounts.get?_set_self row) absent
  · rintro ⟨kept, mirror⟩
    constructor
    · intro old held
      by_cases same : row.id = old.id
      · exact ⟨row, by rw [← same, Table.get?_set_self], kept old (same ▸ held)⟩
      · exact ⟨old, by rw [Table.get?_set, if_neg same, held], Kept.refl old⟩
    · intro new held absent
      rw [Table.get?_set] at held
      split at held
      next same =>
        cases held
        exact mirror absent
      next other =>
        rw [held] at absent
        cases absent
    · intro old held new also same _
      rw [store.same_membership old new held also same]

theorem kept_update_iff (existing : Account) :
    Kept existing (agent.update existing) ↔ (existing.userType ≠ "agent" →
      agent.ownerId.or existing.ownerId = existing.ownerId ∧
        agent.agentId.or existing.agentId = existing.agentId) := by
  constructor
  · intro kept
    exact kept.owner
  · intro owner
    exact ⟨fun _ => rfl, ⟨rfl, rfl⟩, rfl, rfl, ⟨rfl, rfl⟩, owner⟩

theorem flat_unprivileged : ¬ Privileged (some "flat") := by
  decide

theorem mirror_mirror (id : String) : Mirror (agent.mirror id) := by
  constructor
  · exact flat_unprivileged
  · exact ⟨rfl, rfl⟩
  · rfl
  · intro _
    rfl

section Items
variable (normalise : String → String) (store : Store)

theorem safeSyncedRole_unprivileged (role : Option String) (name : String)
    (safe : safeSyncedRole normalise role = some name) : ¬ Privileged (some name) := by
  unfold safeSyncedRole at safe
  dsimp only at safe
  split at safe
  · cases safe
  next allowed =>
    cases safe
    exact fun privileged => allowed (.inr privileged)

variable (payload : UserPayload)

theorem user_update_kept (existing : Account) :
    Kept existing (payload.update normalise existing) := by
  refine ⟨fun privileged => ?_, ⟨rfl, rfl⟩, rfl, rfl, ⟨rfl, rfl⟩, fun _ => ⟨rfl, rfl⟩⟩
  unfold UserPayload.update at privileged ⊢
  split
  · rfl
  next plain =>
    rw [if_neg plain] at privileged
    cases safe : safeSyncedRole normalise payload.role with
    | none => rfl
    | some name =>
      have unprivileged := safeSyncedRole_unprivileged normalise payload.role name safe
      rw [safe] at privileged
      exact (privileged.elim plain unprivileged).elim

theorem user_created_mirror_iff (id token : String) :
    Mirror (payload.created normalise id token) ↔ payload.userType ≠ some "agent" := by
  constructor
  · intro mirror agent
    have credential := mirror.agent (by simp [UserPayload.created, agent])
    cases credential
  · intro human
    refine ⟨?_, ⟨rfl, rfl⟩, rfl, fun agent => ?_⟩
    · unfold UserPayload.created
      cases safe : safeSyncedRole normalise payload.role with
      | none => exact flat_unprivileged
      | some name => exact safeSyncedRole_unprivileged normalise payload.role name safe
    · cases given : payload.userType with
      | none => simp [UserPayload.created, given] at agent
      | some kind =>
        have kind : kind = "agent" := by simpa [UserPayload.created, given] using agent
        exact absurd (kind ▸ given) human

theorem agent_lawful_iff (payload : AgentPayload) :
    Lawful store (applyItem normalise store (.registerAgent payload)) ↔
      payload.Safe store.accounts := by
  unfold applyItem handleSyncAgent AgentPayload.Safe
  dsimp only
  cases payload.target with
  | none => simpa using Lawful.refl store
  | some id =>
    simp only [Option.mem_def, Option.some.injEq, forall_eq']
    cases found : store.accounts.get? id with
    | none =>
      simp only [reduceCtorEq, false_implies, implies_true, iff_true]
      rw [lawful_account_iff]
      constructor
      · intro old held
        exact absurd (found.symm.trans held) (by simp)
      · intro _
        exact mirror_mirror payload.agent id
    | some existing =>
      have sameId := store.accounts.get?_key id existing found
      simp only [Option.some.injEq, forall_eq']
      rw [lawful_account_iff, ← kept_update_iff]
      have written : (payload.agent.update existing).id = id := sameId
      simp [written, found]

theorem user_lawful_iff (token : String) :
    Lawful store (applyItem normalise store (.syncUser payload token)) ↔
      payload.Safe store.accounts := by
  unfold applyItem handleSyncUser UserPayload.Safe
  dsimp only
  cases payload.target with
  | none => simpa using Lawful.refl store
  | some id =>
    simp only [Option.mem_def, Option.some.injEq, forall_eq']
    cases found : store.accounts.get? id with
    | none =>
      have written : (payload.created normalise id token).id = id := rfl
      rw [lawful_account_iff]
      simp [written, found, user_created_mirror_iff]
    | some existing =>
      have sameId := store.accounts.get?_key id existing found
      have written : (payload.update normalise existing).id = id := sameId
      rw [lawful_account_iff]
      simp [written, found, user_update_kept]

theorem membership_lawful_iff (data : MembershipData) :
    Lawful store (applyItem normalise store (.syncMembership data)) ↔
      data.Safe store.memberships := by
  unfold applyItem handleSyncMembership MembershipData.Safe
  dsimp only
  cases data.written store.memberships with
  | none => simpa using Lawful.refl store
  | some row =>
    simp only [Option.mem_def, Option.some.injEq, forall_eq']
    by_cases taken : Taken store.memberships row
    · simpa [taken] using Lawful.refl store
    · simp only [taken, not_false_eq_true, forall_const]
      constructor
      · intro lawful existing found moderating
        have held := store.memberships.get?_mem _ _ found
        have sameId := store.memberships.get?_key _ _ found
        exact lawful.members existing held row ((Table.mem_set _ _ _).mpr (.inl rfl))
          (.inl sameId.symm) moderating
      · intro safe
        refine ⟨(Lawful.refl store).kept, (Lawful.refl store).made, ?_⟩
        intro old held new written same moderating
        rcases (Table.mem_set _ _ _).mp written with rfl | ⟨also, -⟩
        · rcases same with sameRow | sameMember
          · have found := (store.memberships.mem_rows old).mp held
            exact safe old (sameRow ▸ found) moderating
          · by_cases sameRow : old.id = new.id
            · have found := (store.memberships.mem_rows old).mp held
              exact safe old (sameRow ▸ found) moderating
            · exact absurd ⟨old, held, sameRow, sameMember.symm⟩ taken
        · rw [store.same_membership old new held also same]

/-- Applied in any order to any store, sync items keep to the rule exactly when none of them
gives an existing row that is no agent another owner or agent id, makes an agent's account
through the user operation, or gives an existing membership a moderating role. -/
theorem sync_items_lawful_iff (items : List SyncItem) :
    Along (applyItem normalise) (fun before item => Lawful before (applyItem normalise before item))
        store items ↔
      Along (applyItem normalise) LeavesAuthority store items := by
  apply along_congr
  intro before item
  cases item with
  | registerAgent payload => exact agent_lawful_iff normalise before payload
  | syncUser payload token => exact user_lawful_iff normalise before payload token
  | syncMembership data => exact membership_lawful_iff normalise before data
  | other => exact ⟨fun _ => trivial, fun _ => Lawful.refl before⟩

end Items

section Taking

def alice : Account := { id := "u1", username := "alice", userType := "human", apiToken := some "t1" }

def aliceStore : Store where
  accounts := (Table.empty Account.id).set alice
  memberships := (Table.empty Membership.id).set ⟨"m1", "u1", "c1", some "member"⟩
  oneEach := by decide

def claimAlice : SyncItem :=
  .registerAgent ⟨"agent", { id := some "u1", username := "alice", ownerId := some "u2" }⟩

def makeAgent : SyncItem :=
  .syncUser { userId := some "u3", username := "bot", userType := some "agent" } "t3"

def promoteAlice : SyncItem := .syncMembership { id := some "m1", role := some "admin" }

/-- An agent payload gives a person an owner, a user payload makes an agent with a token, and
a membership payload makes a member an admin. -/
theorem sync_items_take_authority :
    ¬ Lawful aliceStore (applyItem id aliceStore claimAlice) ∧
      ¬ Lawful aliceStore (applyItem id aliceStore makeAgent) ∧
      ¬ Lawful aliceStore (applyItem id aliceStore promoteAlice) := by
  refine ⟨fun lawful => ?_, fun lawful => ?_, fun lawful => ?_⟩
  · obtain ⟨new, held, kept⟩ := lawful.kept alice (by decide)
    have owned : (applyItem id aliceStore claimAlice).accounts.get? "u1" =
        some { alice with ownerId := some "u2" } := by decide
    have same : new = { alice with ownerId := some "u2" } := Option.some.inj (held.symm.trans owned)
    have unowned := (kept.owner (by decide)).1
    rw [same] at unowned
    exact absurd unowned (by decide)
  · have mirror := lawful.made
      { id := "u3", username := "bot", displayName := "bot", userType := "agent"
        apiToken := some "t3" } (by decide) (by decide)
    exact absurd (mirror.agent rfl) (by decide)
  · have role := lawful.members ⟨"m1", "u1", "c1", some "member"⟩ (by decide)
      ⟨"m1", "u1", "c1", some "admin"⟩ (by decide) (.inl rfl) (by decide)
    exact absurd role (by decide)

end Taking
end Hartos.Sync
