import Hartos.Task

/-!
The lock a coordinator claims tasks with. The coordinator is written against the
three calls of `TaskLock`; `LawfulTaskLock` says what they do to the live owners
at one moment, and both backends obey it: the in-process lock and the Redis lock
whose commands all succeed.
-/
namespace Hartos
open KeyedTable

class TaskLock (Lock : Type) where
  tryClaimTask : Lock → TaskId → AgentId → Time → Bool × Lock
  releaseTask : Lock → TaskId → AgentId → Time → Bool × Lock
  getTaskOwner : Lock → TaskId → Time → Option AgentId

export TaskLock (tryClaimTask releaseTask getTaskOwner)

def isTaskLocked {Lock : Type} [TaskLock Lock] (lock : Lock) (taskId : TaskId) (now : Time) : Bool :=
  (getTaskOwner lock taskId now).isSome

class LawfulTaskLock (Lock : Type) [TaskLock Lock] : Prop where
  claim_free : ∀ (lock : Lock) (taskId : TaskId) (agentId : AgentId) (now : Time),
    (tryClaimTask lock taskId agentId now).1 = true → getTaskOwner lock taskId now = none
  owner_claimed : ∀ (lock : Lock) (taskId : TaskId) (agentId : AgentId) (now : Time),
    (tryClaimTask lock taskId agentId now).1 = true → ∀ other,
      getTaskOwner (tryClaimTask lock taskId agentId now).2 other now =
        if other = taskId then some agentId else getTaskOwner lock other now
  owner_busy : ∀ (lock : Lock) (taskId : TaskId) (agentId : AgentId) (now : Time),
    (tryClaimTask lock taskId agentId now).1 = false → ∀ other,
      getTaskOwner (tryClaimTask lock taskId agentId now).2 other now = getTaskOwner lock other now
  owner_released : ∀ (lock : Lock) (taskId : TaskId) (agentId : AgentId) (now : Time) (other : TaskId),
    getTaskOwner (releaseTask lock taskId agentId now).2 other now =
      if other = taskId ∧ getTaskOwner lock taskId now = some agentId then none
      else getTaskOwner lock other now

structure LockEntry where
  taskId : TaskId
  agentId : AgentId
  expiresAt : Time
  deriving DecidableEq

def lockTtl : Time := seconds 300

abbrev LockTable := Table LockEntry.taskId

namespace LockTable

def liveOwner (locks : LockTable) (taskId : TaskId) (now : Time) : Option AgentId :=
  match locks.get? taskId with
  | none => none
  | some entry => if entry.expiresAt > now then some entry.agentId else none

variable (locks : LockTable) (taskId other : TaskId)

theorem liveOwner_set (entry : LockEntry) (other : TaskId) (now : Time) :
    liveOwner (locks.set entry) other now =
      if other = entry.taskId then
        (if entry.expiresAt > now then some entry.agentId else none)
      else liveOwner locks other now := by
  unfold liveOwner
  rw [Table.get?_set]
  by_cases same : other = entry.taskId
  · simp [same]
  · simp [same, Ne.symm same]

theorem liveOwner_erase (now : Time) :
    liveOwner (locks.erase taskId) other now =
      if other = taskId then none else liveOwner locks other now := by
  unfold liveOwner
  rw [Table.get?_erase]
  by_cases same : other = taskId <;> simp [same]

theorem ttl_live (now : Time) : now + lockTtl > now :=
  Int.lt_add_of_pos_right now (by decide)

/-- A fresh entry makes its agent the live owner of its task and of no other. -/
theorem liveOwner_claim (agentId : AgentId) (now : Time) :
    liveOwner (locks.set ⟨taskId, agentId, now + lockTtl⟩) other now =
      if other = taskId then some agentId else liveOwner locks other now := by
  rw [liveOwner_set, if_pos (ttl_live now)]

end LockTable

structure InMemoryTaskLock where
  locks : LockTable

namespace InMemoryTaskLock

def empty : InMemoryTaskLock := ⟨Table.empty LockEntry.taskId⟩

variable (lock : InMemoryTaskLock) (taskId : TaskId) (agentId : AgentId)

/-- The `heartbeat` argument is dropped: nothing renews an entry. -/
def tryClaimTask (now : Time) : Bool × InMemoryTaskLock :=
  let claimed : InMemoryTaskLock := ⟨lock.locks.set ⟨taskId, agentId, now + lockTtl⟩⟩
  match lock.locks.get? taskId with
  | some existing => if existing.expiresAt > now then (false, lock) else (true, claimed)
  | none => (true, claimed)

def releaseTask : Bool × InMemoryTaskLock :=
  match lock.locks.get? taskId with
  | some existing =>
      if existing.agentId = agentId then (true, ⟨lock.locks.erase taskId⟩) else (false, lock)
  | none => (false, lock)

instance : TaskLock InMemoryTaskLock where
  tryClaimTask := tryClaimTask
  releaseTask := fun lock taskId agentId _ => releaseTask lock taskId agentId
  getTaskOwner := fun lock => lock.locks.liveOwner

theorem tryClaimTask_spec (now : Time) :
    lock.tryClaimTask taskId agentId now =
      if (lock.locks.liveOwner taskId now).isSome then (false, lock)
      else (true, ⟨lock.locks.set ⟨taskId, agentId, now + lockTtl⟩⟩) := by
  unfold tryClaimTask LockTable.liveOwner
  cases lock.locks.get? taskId with
  | none => rfl
  | some existing => by_cases live : existing.expiresAt > now <;> simp [live]

instance : LawfulTaskLock InMemoryTaskLock where
  claim_free lock taskId agentId now claimed := by
    change (lock.tryClaimTask taskId agentId now).1 = true at claimed
    rw [tryClaimTask_spec] at claimed
    cases owner : lock.locks.liveOwner taskId now with
    | none => exact owner
    | some agent => simp [owner] at claimed
  owner_claimed lock taskId agentId now claimed other := by
    change (lock.tryClaimTask taskId agentId now).1 = true at claimed
    change (lock.tryClaimTask taskId agentId now).2.locks.liveOwner other now = _
    rw [tryClaimTask_spec] at claimed ⊢
    split at claimed
    · simp at claimed
    next free =>
      rw [if_neg free]
      exact LockTable.liveOwner_claim _ _ _ _ _
  owner_busy lock taskId agentId now refused other := by
    change (lock.tryClaimTask taskId agentId now).1 = false at refused
    change (lock.tryClaimTask taskId agentId now).2.locks.liveOwner other now = _
    rw [tryClaimTask_spec] at refused ⊢
    split at refused
    next held => simp [held, getTaskOwner]
    · simp at refused
  owner_released lock taskId agentId now other := by
    change (lock.releaseTask taskId agentId).2.locks.liveOwner other now =
      if other = taskId ∧ lock.locks.liveOwner taskId now = some agentId then none
      else lock.locks.liveOwner other now
    unfold releaseTask
    cases found : lock.locks.get? taskId with
    | none =>
      have free : lock.locks.liveOwner taskId now = none := by simp [LockTable.liveOwner, found]
      simp [free]
    | some existing =>
      by_cases owned : existing.agentId = agentId
      · simp only [owned, ↓reduceIte, LockTable.liveOwner_erase]
        by_cases same : other = taskId
        · by_cases live : existing.expiresAt > now <;>
            simp [same, LockTable.liveOwner, found, live, owned]
        · simp [same]
      · have others : lock.locks.liveOwner taskId now ≠ some agentId := by
          by_cases live : existing.expiresAt > now <;>
            simp [LockTable.liveOwner, found, live, owned]
        simp [owned, others]

end InMemoryTaskLock

/-- Redis keys with their expiry, and the claims whose renewal this process has
registered. The state of the renew thread is modelled in `HeartbeatThread`. -/
structure DistributedTaskLock where
  keys : LockTable
  heartbeats : List (TaskId × AgentId)

namespace DistributedTaskLock

def tryClaimTask (lock : DistributedTaskLock) (taskId : TaskId) (agentId : AgentId)
    (now : Time) : Bool × DistributedTaskLock :=
  if (lock.keys.liveOwner taskId now).isSome then (false, lock)
  else
    (true,
      { keys := lock.keys.set ⟨taskId, agentId, now + lockTtl⟩
        heartbeats := lock.heartbeats.insert (taskId, agentId) })

def releaseTask (lock : DistributedTaskLock) (taskId : TaskId) (agentId : AgentId)
    (now : Time) : Bool × DistributedTaskLock :=
  let stopped := lock.heartbeats.filter (· ≠ (taskId, agentId))
  if lock.keys.liveOwner taskId now = some agentId then
    (true, ⟨lock.keys.erase taskId, stopped⟩)
  else (false, ⟨lock.keys, stopped⟩)

instance : TaskLock DistributedTaskLock where
  tryClaimTask := tryClaimTask
  releaseTask := releaseTask
  getTaskOwner := fun lock => lock.keys.liveOwner

instance : LawfulTaskLock DistributedTaskLock where
  claim_free lock taskId agentId now claimed := by
    change (lock.tryClaimTask taskId agentId now).1 = true at claimed
    unfold tryClaimTask at claimed
    cases owner : lock.keys.liveOwner taskId now with
    | none => exact owner
    | some agent => simp [owner] at claimed
  owner_claimed lock taskId agentId now claimed other := by
    change (lock.tryClaimTask taskId agentId now).1 = true at claimed
    change (lock.tryClaimTask taskId agentId now).2.keys.liveOwner other now = _
    unfold tryClaimTask at claimed ⊢
    split at claimed
    · simp at claimed
    next free =>
      rw [if_neg free]
      exact LockTable.liveOwner_claim _ _ _ _ _
  owner_busy lock taskId agentId now refused other := by
    change (lock.tryClaimTask taskId agentId now).1 = false at refused
    change (lock.tryClaimTask taskId agentId now).2.keys.liveOwner other now = _
    unfold tryClaimTask at refused ⊢
    split at refused
    next held => simp [held, getTaskOwner]
    · simp at refused
  owner_released lock taskId agentId now other := by
    change (lock.releaseTask taskId agentId now).2.keys.liveOwner other now =
      if other = taskId ∧ lock.keys.liveOwner taskId now = some agentId then none
      else lock.keys.liveOwner other now
    unfold releaseTask
    by_cases owned : lock.keys.liveOwner taskId now = some agentId
    · simp [owned, LockTable.liveOwner_erase]
    · simp [owned]

end DistributedTaskLock

end Hartos
