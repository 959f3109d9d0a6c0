import Hartos.CoordinatorSteps

/-!
A claim crosses two stores and may touch tasks it never returns. Here is what it
leaves behind: a returned task is claimed in the ledger, under the lock and on
disk; any other task carries no trace of the claim, save that a due deferral or a
recovered orphan may have gone back to PENDING.
-/
namespace Hartos
open TaskStatus KeyedTable

inductive Passed (old new : Task) : Prop where
  | kept (same : new = old)
  | undeferred (frame : claimFrame new = claimFrame old) (deferred : old.status = .deferred)
      (pending : new.status = .pending) (claim : new.context = old.context)
  | recovered (frame : claimFrame new = claimFrame old) (running : old.status = .inProgress)
      (pending : new.status = .pending)
      (cleared : new.context.claimedBy = none ∧ new.context.claimedAt = none)

structure Granted (agentId : AgentId) (now : Time) (old new : Task) : Prop where
  frame : claimFrame new = claimFrame old
  unfinished : old.status = .pending ∨ old.status = .deferred ∨ old.status = .inProgress
  running : new.status = .inProgress
  claimedBy : new.context.claimedBy = some agentId
  claimedAt : new.context.claimedAt = some (.at now)

theorem Passed.refl (task : Task) : Passed task task := .kept rfl

theorem Passed.frame {old new : Task} (passed : Passed old new) :
    claimFrame new = claimFrame old := by
  cases passed with
  | kept same => rw [same]
  | undeferred frame => exact frame
  | recovered frame => exact frame

theorem Passed.trans (a b c : Task) (first : Passed a b) (second : Passed b c) : Passed a c := by
  cases first with
  | kept same => exact same ▸ second
  | undeferred frame deferred pending claim =>
    cases second with
    | kept same => exact same ▸ .undeferred frame deferred pending claim
    | undeferred _ again => rw [pending] at again; cases again
    | recovered _ again => rw [pending] at again; cases again
  | recovered frame running pending cleared =>
    cases second with
    | kept same => exact same ▸ .recovered frame running pending cleared
    | undeferred _ again => rw [pending] at again; cases again
    | recovered _ again => rw [pending] at again; cases again

/-- A passed task is PENDING only if it was waiting, deferred or running. -/
theorem Passed.unfinished {old new : Task} (passed : Passed old new)
    (pending : new.status = .pending) :
    old.status = .pending ∨ old.status = .deferred ∨ old.status = .inProgress := by
  cases passed with
  | kept same => exact Or.inl (same ▸ pending)
  | undeferred _ deferred => exact Or.inr (Or.inl deferred)
  | recovered _ running => exact Or.inr (Or.inr running)

theorem Prepared.passed {Lock : Type} [TaskLock Lock] {host : Host} {lock : Lock} {now : Time}
    {task new : Task} (prepared : Prepared host lock now task new) : Passed task new := by
  have frame := prepared.frame
  have pending := prepared.pending
  cases prepared with
  | undeferred deferred => exact .undeferred frame deferred pending rfl
  | recovered running => exact .recovered frame running pending ⟨rfl, rfl⟩

theorem claimedTask_granted (agentId : AgentId) (now : Time) (old task : Task)
    (passed : Passed old task) (pending : task.status = .pending) :
    Granted agentId now old (claimedTask agentId now task) where
  frame := (claimedTask_frame agentId now task).trans passed.frame
  unfinished := passed.unfinished pending
  running := (SmartLedger.updatedTask_keeps { status := .inProgress, deferSave := true } now task).2.1
  claimedBy := rfl
  claimedAt := rfl

structure OneClaimed (agentId : AgentId) (now : Time) (taskId : TaskId) (old new : Task) :
    Prop where
  named : old.taskId = taskId → old.status = .pending ∧ new = claimedTask agentId now old
  others : old.taskId ≠ taskId → new = old

theorem putTask_claimed (ledger : SmartLedger) (task : Task) (agentId : AgentId) (now : Time)
    (found : ledger.getTask task.taskId = some task) (pending : task.status = .pending) :
    SmartLedger.Reworked (OneClaimed agentId now task.taskId) ledger
      (ledger.putTask (claimedTask agentId now task)) := by
  have sameId := claimFrame_taskId (claimedTask_frame agentId now task)
  apply SmartLedger.reworked_putTask ledger task
  · intro other different
    constructor
    · intro same
      exact absurd (same.trans sameId.symm) different
    · exact fun _ => rfl
  · exact sameId ▸ found
  · constructor
    · exact fun _ => ⟨pending, rfl⟩
    · exact fun other => absurd rfl other

structure ClaimRow (agentId : AgentId) (now : Time) (returned : List TaskId)
    (old new : Task) : Prop where
  granted : old.taskId ∈ returned → Granted agentId now old new
  passed : old.taskId ∉ returned → Passed old new

namespace Coordinator
variable {Lock : Type} [TaskLock Lock]

structure ClaimedLedger (agentId : AgentId) (now : Time) (before : SmartLedger)
    (returned : List TaskId) (after : SmartLedger) : Prop where
  rows : Table.Evolves (ClaimRow agentId now returned) before.tasks after.tasks
  present : ∀ taskId ∈ returned, taskId ∈ before.tasks.keys
  stored : returned ≠ [] → after.backend.stored = some after.image

variable (host : Host) (c : Coordinator Lock) (agentId : AgentId) (now : Time)
  (before : SmartLedger)

theorem claimedLedger_none (before after : SmartLedger)
    (rows : Table.Evolves Passed before.tasks after.tasks) :
    ClaimedLedger agentId now before [] after where
  rows := rows.mono fun _ _ passed => ⟨fun member => absurd member List.not_mem_nil, fun _ => passed⟩
  present := List.forall_mem_nil _
  stored := fun some => absurd rfl some

theorem ledgerRule :
    ClaimRule host agentId now
      (fun c : Coordinator Lock => Table.Evolves Passed before.tasks c.ledger.tasks)
      (fun returned c => ClaimedLedger agentId now before returned.toList c.ledger) where
  prepares c task new rows found ready := by
    have sameId := claimFrame_taskId ready.frame
    exact rows.trans Passed.trans
      (c.ledger.commitPut_rows task new Passed.refl (sameId ▸ found) ready.passed)
  busy _ _ rows _ := rows
  claims c task rows found pending _ accepted := by
    have step := (putTask_claimed c.ledger task agentId now found pending).rows
    refine ⟨rows.trans (fun a b new passed changed => ?_) step, ?_, fun _ => ?_⟩
    · have same := claimFrame_taskId passed.frame
      refine ⟨fun member => ?_, fun absent => ?_⟩
      · have here : a.taskId = task.taskId := by simpa using member
        -- Earlier passes may have undeferred or recovered the task before its claim.
        obtain ⟨waiting, rfl⟩ := changed.named (same.trans here)
        exact claimedTask_granted agentId now a b passed waiting
      · have other : a.taskId ≠ task.taskId := by simpa using absent
        rw [changed.others (same ▸ other)]
        exact passed
    · intro taskId member
      have here : taskId = task.taskId := by simpa using member
      rw [here, ← rows.keys]
      exact (Table.mem_keys _ _).mpr ⟨task, found⟩
    · exact SmartLedger.save_stored (c.ledger.putTask (claimedTask agentId now task)) accepted
  stops c task rows found _ _ refused := by
    rw [c.ledger.commitPut_refused _ refused]
    exact claimedLedger_none agentId now before _ rows
  ends c rows := claimedLedger_none agentId now before c.ledger rows

theorem claimNextTask_ledger (capabilities : Option (List String)) (now : Time) :
    ClaimedLedger agentId now c.ledger
      (c.claimNextTask host agentId capabilities now).1.toList
      (c.claimNextTask host agentId capabilities now).2.ledger :=
  (ledgerRule host agentId now c.ledger).claimNextTask capabilities c
    (Table.Evolves.refl Passed.refl c.ledger.tasks)

structure ClaimedLocks (agentId : AgentId) (now : Time) (before : Lock)
    (returned : List TaskId) (after : Lock) : Prop where
  owned : ∀ taskId ∈ returned, getTaskOwner after taskId now = some agentId
  others : ∀ taskId ∉ returned, getTaskOwner after taskId now = getTaskOwner before taskId now

theorem lockRule [LawfulTaskLock Lock] (host : Host) (agentId : AgentId) (now : Time)
    (before : Lock) :
    ClaimRule host agentId now
      (fun c : Coordinator Lock =>
        ∀ taskId, getTaskOwner c.lock taskId now = getTaskOwner before taskId now)
      (fun returned c => ClaimedLocks agentId now before returned.toList c.lock) where
  prepares _ _ _ same _ _ := same
  busy c taskId same refused other := by
    rw [LawfulTaskLock.owner_busy c.lock taskId agentId now refused, same]
  claims c task same _ _ locked _ := by
    have owner := LawfulTaskLock.owner_claimed c.lock task.taskId agentId now locked
    refine ⟨fun taskId member => ?_, fun taskId absent => ?_⟩
    · have here : taskId = task.taskId := by simpa using member
      rw [owner, if_pos here]
    · have other : taskId ≠ task.taskId := by simpa using absent
      rw [owner, if_neg other, same]
  stops c task same _ _ locked _ := by
    -- The lock was free when it was taken, so giving it back restores the owner.
    have free := LawfulTaskLock.claim_free c.lock task.taskId agentId now locked
    have owner := LawfulTaskLock.owner_claimed c.lock task.taskId agentId now locked
    refine ⟨List.forall_mem_nil _, fun taskId _ => ?_⟩
    rw [LawfulTaskLock.owner_released, owner, owner]
    by_cases here : taskId = task.taskId
    · rw [if_pos ⟨here, by simp⟩, here, ← same, free]
    · rw [if_neg (fun both => here both.1), if_neg here, same]
  ends _ same := ⟨List.forall_mem_nil _, fun taskId _ => same taskId⟩

theorem claimNextTask_locks [LawfulTaskLock Lock] (host : Host) (c : Coordinator Lock)
    (agentId : AgentId) (capabilities : Option (List String)) (now : Time) :
    ClaimedLocks agentId now c.lock (c.claimNextTask host agentId capabilities now).1.toList
      (c.claimNextTask host agentId capabilities now).2.lock :=
  (lockRule host agentId now c.lock).claimNextTask capabilities c fun _ => rfl

/-- The rule for a batch: `inv` holds between the passes of its loop, whose stages
never fail because it stages only PENDING tasks; `done` is what the answer and the
final state satisfy. -/
structure BatchRule (host : Host) (agentId : AgentId) (now : Time)
    (inv : Batch → Coordinator Lock → Prop) (done : List TaskId → Coordinator Lock → Prop) :
    Prop where
  busy : ∀ (batch : Batch) (c : Coordinator Lock) (taskId : TaskId), inv batch c →
    (tryClaimTask c.lock taskId agentId now).1 = false →
    inv batch { c with lock := (tryClaimTask c.lock taskId agentId now).2 }
  stages : ∀ (batch : Batch) (c : Coordinator Lock) (task : Task), inv batch c →
    c.ledger.getTask task.taskId = some task → task.status = .pending →
    (tryClaimTask c.lock task.taskId agentId now).1 = true →
    inv ⟨batch.claimed ++ [task.taskId], batch.snapshots ++ [task]⟩
      ⟨c.ledger.putTask (claimedTask agentId now task),
        (tryClaimTask c.lock task.taskId agentId now).2⟩
  idles : ∀ (batch : Batch) (c : Coordinator Lock), inv batch c → batch.claimed = [] → done [] c
  commits : ∀ (batch : Batch) (c : Coordinator Lock), inv batch c →
    c.ledger.backend.next = .accepted → done batch.claimed { c with ledger := c.ledger.save.2 }
  undoes : ∀ (batch : Batch) (c : Coordinator Lock), inv batch c →
    c.ledger.backend.next ≠ .accepted →
    done [] ⟨(c.ledger.commitDeferred batch.snapshots []).2,
      releaseStagedClaims c.lock batch.claimed agentId now⟩

section Rule
variable {host : Host} {agentId : AgentId} {now : Time} {inv : Batch → Coordinator Lock → Prop}
  {done : List TaskId → Coordinator Lock → Prop}

theorem BatchRule.run (rule : BatchRule host agentId now inv done) (maxTasks : Int)
    (capabilities : Option (List String)) (taskIds : List TaskId) (batch : Batch)
    (c : Coordinator Lock) (holds : inv batch c) :
    ∃ staged, (stageBatch host agentId maxTasks capabilities now taskIds batch c).1 = some staged ∧
      inv staged (stageBatch host agentId maxTasks capabilities now taskIds batch c).2 := by
  induction taskIds generalizing batch c with
  | nil => exact ⟨batch, rfl, holds⟩
  | cons taskId rest ih =>
    unfold stageBatch
    split
    · exact ⟨batch, rfl, holds⟩
    · cases candidate : batchCandidate c.ledger taskId capabilities with
      | none => exact ih batch c holds
      | some task =>
        obtain ⟨found, eligible⟩ := Option.filter_eq_some_iff.mp candidate
        have named := c.ledger.getTask_taskId taskId task found
        subst named
        have pending : task.status = .pending := by
          simp only [decide_eq_true_eq] at eligible
          exact eligible.1
        have stage := c.stageTaskClaim_pending host task agentId now found pending
        by_cases locked : (tryClaimTask c.lock task.taskId agentId now).1 = true
        · rw [if_pos locked] at stage
          simp only [stage]
          exact ih _ _ (rule.stages batch c task holds found pending locked)
        · rw [if_neg locked] at stage
          simp only [stage]
          exact ih _ _ (rule.busy batch c task.taskId holds (by simpa using locked))

theorem BatchRule.claimParallelBatch (rule : BatchRule host agentId now inv done) (maxTasks : Int)
    (capabilities : Option (List String)) (c : Coordinator Lock) (holds : inv ⟨[], []⟩ c) :
    done (c.claimParallelBatch host agentId maxTasks capabilities now).1
      (c.claimParallelBatch host agentId maxTasks capabilities now).2 := by
  obtain ⟨batch, answered, staged⟩ :=
    rule.run maxTasks capabilities c.ledger.taskOrder ⟨[], []⟩ c holds
  unfold Coordinator.claimParallelBatch
  rcases outcome : stageBatch host agentId maxTasks capabilities now c.ledger.taskOrder ⟨[], []⟩ c
    with ⟨answer, after⟩
  rw [outcome] at answered staged
  subst answered
  dsimp only
  split
  next empty => exact rule.idles batch after staged (List.isEmpty_iff.mp empty)
  next =>
    by_cases accepted : after.ledger.backend.next = .accepted
    · have committed := after.ledger.commitDeferred_accepted batch.snapshots accepted
      simpa only [committed, ↓reduceIte] using rule.commits batch after staged accepted
    · have failed := congrArg Prod.fst
        (after.ledger.commitDeferred_refused batch.snapshots accepted)
      simpa only [failed, Bool.false_eq_true, ↓reduceIte] using
        rule.undoes batch after staged accepted

end Rule

structure StagedRow (agentId : AgentId) (now : Time) (claimed : List TaskId)
    (old new : Task) : Prop where
  granted : old.taskId ∈ claimed → Granted agentId now old new
  kept : old.taskId ∉ claimed → new = old

theorem StagedRow.passed {agentId : AgentId} {now : Time} {claimed : List TaskId} {old new : Task}
    (row : StagedRow agentId now claimed old new) : ClaimRow agentId now claimed old new :=
  ⟨row.granted, fun absent => .kept (row.kept absent)⟩

structure BatchStaged (agentId : AgentId) (now : Time) (before : SmartLedger) (batch : Batch)
    (after : SmartLedger) : Prop where
  rows : SmartLedger.Reworked (StagedRow agentId now batch.claimed) before after
  copied : batch.snapshots.map Task.taskId = batch.claimed
  copies : ∀ copy ∈ batch.snapshots, before.getTask copy.taskId = some copy

theorem BatchStaged.stage {agentId : AgentId} {now : Time} {before after : SmartLedger}
    {batch : Batch} (staged : BatchStaged agentId now before batch after) (task : Task)
    (found : after.getTask task.taskId = some task) (pending : task.status = .pending) :
    BatchStaged agentId now before ⟨batch.claimed ++ [task.taskId], batch.snapshots ++ [task]⟩
      (after.putTask (claimedTask agentId now task)) := by
  obtain ⟨old, there, row⟩ := staged.rows.getTask_origin task.taskId task found
  have named := before.getTask_taskId task.taskId old there
  -- A task this batch has claimed is IN_PROGRESS, so it is not staged twice.
  have fresh : task.taskId ∉ batch.claimed := by
    intro member
    have running := (row.granted (named.symm ▸ member)).running
    rw [pending] at running
    cases running
  have same : task = old := row.kept (named.symm ▸ fresh)
  have step := putTask_claimed after task agentId now found pending
  refine ⟨staged.rows.trans (fun a b new first second => ?_) step, ?_, ?_⟩
  · refine ⟨fun member => ?_, fun absent => ?_⟩
    · rcases List.mem_append.mp member with before | last
      · have granted := first.granted before
        have sameId := claimFrame_taskId granted.frame
        have other : b.taskId ≠ task.taskId := by
          intro here
          exact fresh (here ▸ sameId.symm ▸ before)
        rw [second.others other]
        exact granted
      · have here : a.taskId = task.taskId := by simpa using last
        have unmoved := first.kept (here ▸ fresh)
        subst unmoved
        obtain ⟨waiting, rfl⟩ := second.named here
        exact claimedTask_granted agentId now b b (.kept rfl) waiting
    · have outside : a.taskId ∉ batch.claimed ∧ a.taskId ≠ task.taskId := by
        simpa [not_or] using absent
      have unmoved := first.kept outside.1
      subst unmoved
      exact second.others outside.2
  · simp [staged.copied]
  · intro copy member
    rcases List.mem_append.mp member with before | last
    · exact staged.copies copy before
    · have here : copy = task := by simpa using last
      rw [here, there, same]

theorem BatchStaged.undo {agentId : AgentId} {now : Time} {before after : SmartLedger}
    {batch : Batch} (staged : BatchStaged agentId now before batch after)
    (refused : after.backend.next ≠ .accepted) :
    after.commitDeferred batch.snapshots [] =
      (false, { before with backend := after.save.2.backend }) := by
  have undone : after.save.2.restoreSnapshots batch.snapshots =
      { before with backend := after.save.2.backend } := by
    refine SmartLedger.restoreSnapshots_undoes { before with backend := after.save.2.backend } _ _
      staged.copies ?_
    rw [staged.copied]
    exact (staged.rows.mono fun _ _ row => row.kept).withBackend _
  rw [after.commitDeferred_refused batch.snapshots refused, undone]

theorem batchStaged_start (ledger : SmartLedger) :
    BatchStaged agentId now ledger ⟨[], []⟩ ledger where
  rows := SmartLedger.Reworked.refl
    (fun _ => ⟨fun member => absurd member List.not_mem_nil, fun _ => rfl⟩) ledger
  copied := rfl
  copies := List.forall_mem_nil _

theorem batchLedgerRule :
    BatchRule host agentId now
      (fun batch (c : Coordinator Lock) => BatchStaged agentId now before batch c.ledger)
      (fun returned c => ClaimedLedger agentId now before returned c.ledger) where
  busy _ _ _ staged _ := staged
  stages _ _ task staged found pending _ := staged.stage task found pending
  idles batch c staged none := by
    refine claimedLedger_none agentId now before c.ledger ?_
    exact staged.rows.rows.mono fun _ _ row => .kept (row.kept (by simp [none]))
  commits batch c staged accepted := by
    refine ⟨staged.rows.rows.mono fun _ _ row => row.passed, fun taskId member => ?_,
      fun _ => SmartLedger.save_stored c.ledger accepted⟩
    rw [← staged.copied] at member
    obtain ⟨copy, inside, rfl⟩ := List.mem_map.mp member
    exact (Table.mem_keys _ _).mpr ⟨copy, staged.copies copy inside⟩
  undoes batch c staged refused := by
    rw [staged.undo refused]
    exact claimedLedger_none agentId now before _ (Table.Evolves.refl Passed.refl _)

theorem claimParallelBatch_ledger (maxTasks : Int) (capabilities : Option (List String))
    (now : Time) :
    ClaimedLedger agentId now c.ledger
      (c.claimParallelBatch host agentId maxTasks capabilities now).1
      (c.claimParallelBatch host agentId maxTasks capabilities now).2.ledger :=
  (batchLedgerRule host agentId now c.ledger).claimParallelBatch maxTasks capabilities c
    (batchStaged_start agentId now c.ledger)

structure StagedLocks (agentId : AgentId) (now : Time) (before : Lock) (claimed : List TaskId)
    (after : Lock) : Prop where
  owned : ∀ taskId ∈ claimed, getTaskOwner after taskId now = some agentId
  free : ∀ taskId ∈ claimed, getTaskOwner before taskId now = none
  others : ∀ taskId ∉ claimed, getTaskOwner after taskId now = getTaskOwner before taskId now

theorem releaseStagedClaims_owner [LawfulTaskLock Lock] (lock : Lock) (taskIds : List TaskId)
    (agentId : AgentId) (now : Time) (other : TaskId) :
    getTaskOwner (releaseStagedClaims lock taskIds agentId now) other now =
      if other ∈ taskIds ∧ getTaskOwner lock other now = some agentId then none
      else getTaskOwner lock other now := by
  unfold releaseStagedClaims
  induction taskIds generalizing lock with
  | nil => simp
  | cons taskId rest ih =>
    rw [List.foldl_cons, ih, LawfulTaskLock.owner_released]
    by_cases here : other = taskId
    · subst here
      by_cases owned : getTaskOwner lock other now = some agentId <;> simp [owned]
    · simp [here]

theorem StagedLocks.released [LawfulTaskLock Lock] {agentId : AgentId} {now : Time}
    {before after : Lock} {claimed : List TaskId}
    (staged : StagedLocks agentId now before claimed after) :
    ClaimedLocks agentId now before [] (releaseStagedClaims after claimed agentId now) := by
  refine ⟨List.forall_mem_nil _, fun id _ => ?_⟩
  rw [releaseStagedClaims_owner]
  by_cases member : id ∈ claimed
  · rw [if_pos ⟨member, staged.owned id member⟩, staged.free id member]
  · rw [if_neg (fun both => member both.1), staged.others id member]

theorem batchLockRule [LawfulTaskLock Lock] (host : Host) (agentId : AgentId) (now : Time)
    (before : Lock) :
    BatchRule host agentId now
      (fun batch (c : Coordinator Lock) => StagedLocks agentId now before batch.claimed c.lock)
      (fun returned c => ClaimedLocks agentId now before returned c.lock) where
  busy _ c taskId staged refused := by
    have same := LawfulTaskLock.owner_busy c.lock taskId agentId now refused
    exact ⟨fun id member => (same id).trans (staged.owned id member), staged.free,
      fun id absent => (same id).trans (staged.others id absent)⟩
  stages batch c task staged _ _ locked := by
    have free := LawfulTaskLock.claim_free c.lock task.taskId agentId now locked
    have owner := LawfulTaskLock.owner_claimed c.lock task.taskId agentId now locked
    have fresh : task.taskId ∉ batch.claimed := by
      intro member
      rw [staged.owned task.taskId member] at free
      cases free
    refine ⟨fun id member => ?_, fun id member => ?_, fun id absent => ?_⟩
    · rw [owner]
      rcases List.mem_append.mp member with earlier | last
      · by_cases here : id = task.taskId
        · rw [if_pos here]
        · rw [if_neg here, staged.owned id earlier]
      · rw [if_pos (by simpa using last)]
    · rcases List.mem_append.mp member with earlier | last
      · exact staged.free id earlier
      · have here : id = task.taskId := by simpa using last
        rw [here, ← staged.others task.taskId fresh, free]
    · have outside : id ∉ batch.claimed ∧ id ≠ task.taskId := by simpa [not_or] using absent
      rw [owner, if_neg outside.2, staged.others id outside.1]
  idles batch c staged none :=
    ⟨List.forall_mem_nil _, fun id _ => staged.others id (by simp [none])⟩
  commits _ _ staged _ := ⟨staged.owned, staged.others⟩
  undoes _ _ staged _ := staged.released

theorem claimParallelBatch_locks [LawfulTaskLock Lock] (host : Host) (c : Coordinator Lock)
    (agentId : AgentId) (maxTasks : Int) (capabilities : Option (List String)) (now : Time) :
    ClaimedLocks agentId now c.lock
      (c.claimParallelBatch host agentId maxTasks capabilities now).1
      (c.claimParallelBatch host agentId maxTasks capabilities now).2.lock :=
  (batchLockRule host agentId now c.lock).claimParallelBatch maxTasks capabilities c
    ⟨List.forall_mem_nil _, List.forall_mem_nil _, fun _ _ => rfl⟩

structure Untaken (agentId : AgentId) (now : Time) (before after : Coordinator Lock)
    (taskId : TaskId) : Prop where
  task : ∀ new, after.ledger.getTask taskId = some new →
    ∃ old, before.ledger.getTask taskId = some old ∧
      ((new.context.claimedBy = old.context.claimedBy ∧
          new.context.claimedAt = old.context.claimedAt) ∨
        (new.context.claimedBy = none ∧ new.context.claimedAt = none)) ∧
      (new.status = .inProgress → new = old)
  lock : getTaskOwner after.lock taskId now = some agentId →
    getTaskOwner before.lock taskId now = some agentId

structure Taken (agentId : AgentId) (now : Time) (after : Coordinator Lock) (taskId : TaskId) :
    Prop where
  task : ∃ new, after.ledger.getTask taskId = some new ∧ new.status = .inProgress ∧
    new.context.claimedBy = some agentId ∧ new.context.claimedAt = some (.at now)
  lock : getTaskOwner after.lock taskId now = some agentId
  stored : after.ledger.backend.stored = some after.ledger.image

def AllOrNothing (agentId : AgentId) (now : Time) (before : Coordinator Lock)
    (outcome : List TaskId × Coordinator Lock) : Prop :=
  (∀ taskId ∉ outcome.1, Untaken agentId now before outcome.2 taskId) ∧
    ∀ taskId ∈ outcome.1, Taken agentId now outcome.2 taskId

theorem allOrNothing_of_effects (before : Coordinator Lock)
    (outcome : List TaskId × Coordinator Lock)
    (ledger : ClaimedLedger agentId now before.ledger outcome.1 outcome.2.ledger)
    (locks : ClaimedLocks agentId now before.lock outcome.1 outcome.2.lock) :
    AllOrNothing agentId now before outcome := by
  refine ⟨fun taskId absent => ⟨fun new found => ?_, fun held => ?_⟩, fun taskId member => ?_⟩
  · obtain ⟨old, there, row⟩ := ledger.rows.get?_origin taskId new found
    have named := before.ledger.getTask_taskId taskId old there
    refine ⟨old, there, ?_⟩
    -- The three ways a claim call may pass a task by; two of them end PENDING.
    cases row.passed (named.symm ▸ absent) with
    | kept same => exact ⟨Or.inl (by rw [same]; exact ⟨rfl, rfl⟩), fun _ => same⟩
    | undeferred _ _ pending claim =>
      refine ⟨Or.inl (by rw [claim]; exact ⟨rfl, rfl⟩), fun running => ?_⟩
      rw [pending] at running
      cases running
    | recovered _ _ pending cleared =>
      refine ⟨Or.inr cleared, fun running => ?_⟩
      rw [pending] at running
      cases running
  · rw [← locks.others taskId absent]
    exact held
  · obtain ⟨old, there⟩ := (Table.mem_keys _ _).mp (ledger.present taskId member)
    obtain ⟨new, found, row⟩ := ledger.rows.get?_some taskId old there
    have named := before.ledger.getTask_taskId taskId old there
    have granted := row.granted (named.symm ▸ member)
    exact ⟨⟨new, found, granted.running, granted.claimedBy, granted.claimedAt⟩,
      locks.owned taskId member, ledger.stored fun none => by simp [none] at member⟩

/-- Both claim calls take a task whole or not at all, for every ledger, every
state of the locks and every behaviour of the backend. -/
theorem claims_all_or_nothing [LawfulTaskLock Lock] (host : Host) (c : Coordinator Lock)
    (agentId : AgentId) (capabilities : Option (List String)) (now : Time) :
    AllOrNothing agentId now c
        ((c.claimNextTask host agentId capabilities now).1.toList,
          (c.claimNextTask host agentId capabilities now).2) ∧
      ∀ maxTasks, AllOrNothing agentId now c
        (c.claimParallelBatch host agentId maxTasks capabilities now) :=
  ⟨allOrNothing_of_effects agentId now c _
      (c.claimNextTask_ledger host agentId capabilities now)
      (c.claimNextTask_locks host agentId capabilities now),
    fun maxTasks => allOrNothing_of_effects agentId now c _
      (c.claimParallelBatch_ledger host agentId maxTasks capabilities now)
      (c.claimParallelBatch_locks host agentId maxTasks capabilities now)⟩

def sampleCoordinator (tasks : List Task) (verdict : Verdict) : Coordinator InMemoryTaskLock where
  ledger := SmartLedger.sampleLedger tasks verdict
  lock := InMemoryTaskLock.empty

theorem sample_claims_all_or_nothing :
    let c := sampleCoordinator [SmartLedger.sampleTask "a" .pending] .accepted
    AllOrNothing "worker" 5 c
        ((c.claimNextTask SmartLedger.sampleHost "worker" none 5).1.toList,
          (c.claimNextTask SmartLedger.sampleHost "worker" none 5).2) ∧
      ∀ maxTasks, AllOrNothing "worker" 5 c
        (c.claimParallelBatch SmartLedger.sampleHost "worker" maxTasks none 5) :=
  claims_all_or_nothing SmartLedger.sampleHost _ "worker" none 5

/-- The sample task is returned when the save goes through, and only then. -/
example (verdict : Verdict) :
    ((sampleCoordinator [SmartLedger.sampleTask "a" .pending] verdict).claimNextTask
      SmartLedger.sampleHost "worker" none 5).1 =
        if verdict = .accepted then some "a" else none := by
  cases verdict <;> decide

end Coordinator

end Hartos
