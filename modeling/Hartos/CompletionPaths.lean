import Hartos.AutoResume
import Hartos.CompletionRouting
import Hartos.LedgerOperations

/-!
`complete_task` and `complete_task_and_route` side by side. The first walks the
dependents and knows no parent; the second frees the parent and lets the
dependents wait. Each is described row by row, and the two agree exactly where
neither has anything to do that the other leaves out.
-/
namespace Hartos.SmartLedger
open TaskStatus KeyedTable

def blockersOf (ledger : SmartLedger) (taskId : TaskId) : Option (List TaskId) :=
  (ledger.getTask taskId).map Task.blockedBy

def receiptOf (ledger : SmartLedger) (taskId : TaskId) :
    Option (Status × Option Value × Option String) :=
  (ledger.getTask taskId).map fun task => (task.status, task.result, task.context.resultHash)

structure SameOutcome (completedId : TaskId) (left right : SmartLedger) : Prop where
  others : ∀ taskId, taskId ≠ completedId →
    left.statusOf taskId = right.statusOf taskId ∧ left.blockersOf taskId = right.blockersOf taskId
  receipt : left.receiptOf completedId = right.receiptOf completedId

def FreesParent (ledger : SmartLedger) (task : Task) (parentId : TaskId) : Prop :=
  parentId ≠ "" ∧ task.parentTaskId = some parentId ∧
    ledger.statusOf parentId = some .blocked ∧
    ∀ child ∈ ledger.childrenOf parentId,
      child.taskId = task.taskId ∨ isResolved child.status = true

structure Walked (host : Host) (ledger : SmartLedger) (completedId : TaskId)
    (result : Option Value) (old new : Task) : Prop where
  named : old.taskId = completedId → new.status = .completed ∧ new.result = result ∧
    new.context.resultHash = (result.bind host.resultHash <|> old.context.resultHash)
  reached : old.taskId ≠ completedId → Reaches ledger completedId old.taskId →
    new.blockedBy = old.blockedBy.erase completedId ∧
      new.status = if waitsOnlyOn completedId old then .inProgress else old.status
  spared : old.taskId ≠ completedId → ¬ Reaches ledger completedId old.taskId →
    new.blockedBy = old.blockedBy ∧ new.status = old.status

variable (host : Host) (ledger : SmartLedger) (task : Task) (update : StatusUpdate)

theorem completeFields_receipt (result : Option Value) (task : Task) :
    (completeFields host result task).result = result ∧
      (completeFields host result task).context.resultHash =
        (result.bind host.resultHash <|> task.context.resultHash) := by
  unfold completeFields
  cases result.bind host.resultHash <;> exact ⟨rfl, rfl⟩

variable (parent : Task) (now : Time)

theorem finishFields_receipt (task : Task) :
    (finishFields update now task).result = task.result ∧
      (finishFields update now task).context = task.context ∧
      (finishFields update now task).blockedBy = task.blockedBy := by
  unfold finishFields
  split <;> split <;> exact ⟨rfl, rfl, rfl⟩

theorem Cascaded.result {old new : Task} (change : Cascaded old new) :
    new.result = old.result := (congrArg Task.result change.frame :)

-- The update with its save accepted leaves the staged tasks.
theorem updateTaskStatus_accepted (found : ledger.getTask task.taskId = some task)
    (durable : update.deferSave = false) (admitted : task.validateTransition update.status = true)
    (accepted : ledger.backend.next = .accepted) :
    (ledger.updateTaskStatus host task.taskId update now).1 = true ∧
      (ledger.updateTaskStatus host task.taskId update now).2.tasks =
        (stageStatus host ledger task update now).1.tasks := by
  rw [updateTaskStatus_done host ledger task update now found durable admitted accepted]
  refine ⟨rfl, ?_⟩
  split
  · exact congrArg LedgerImage.tasks (emitCompletionEvents_keeps _ task.taskId _ now).1
  · rfl

structure LoopRow (host : Host) (start : SmartLedger) (completedId : TaskId)
    (result : Option Value) (old new : Task) : Prop where
  named : old.taskId = completedId → new.status = .completed ∧ new.result = result ∧
    new.context.resultHash = (result.bind host.resultHash <|> old.context.resultHash)
  others : old.taskId ≠ completedId → Settled start completedId old new

theorem putDone_looped {host : Host} {ledger : SmartLedger} {task done : Task}
    {result : Option Value} (now : Time) (found : ledger.getTask task.taskId = some task)
    (sameId : done.taskId = task.taskId) (status : done.status = .completed)
    (shown : done.result = result)
    (receipt : done.context.resultHash =
      (result.bind host.resultHash <|> task.context.resultHash)) :
    Reworked (LoopRow host (ledger.putTask done) task.taskId result) ledger
      ((ledger.putTask done).handleTaskCompletion host task.taskId now).1 := by
  have row : (ledger.putTask done).getTask done.taskId = some done := by simp [getTask_putTask]
  have cascade := (handleTaskCompletion_settles host (ledger.putTask done) done now row).1
  rw [sameId] at cascade
  have recorded : Reworked (fun old new => if old.taskId = task.taskId then
      old = task ∧ new = done else new = old) ledger (ledger.putTask done) :=
    reworked_putTask ledger task done (fun other different => by simp [sameId ▸ different])
      (sameId ▸ found) (by simp)
  refine recorded.trans ?_ cascade
  intro a b c first settled
  by_cases named : a.taskId = task.taskId
  · rw [if_pos named] at first
    obtain ⟨rfl, rfl⟩ := first
    refine ⟨fun _ => ⟨?_, ?_, ?_⟩, fun other => absurd rfl other⟩
    · by_cases reached : Reaches (ledger.putTask b) a.taskId b.taskId
      · simpa [waitsOnlyOn, status] using (settled.reached reached).2
      · exact (settled.spared reached).2.trans status
    · exact settled.cascaded.result.trans shown
    · rw [settled.cascaded.context, receipt]
  · rw [if_neg named] at first
    subst first
    exact ⟨fun here => absurd here named, fun _ => settled⟩

-- The fields written last touch the completed task's row alone.
theorem LoopRow.walked {host : Host} {ledger start : SmartLedger} {completedId : TaskId}
    {result : Option Value} {update : StatusUpdate} {now : Time} {old middle new : Task}
    (looped : LoopRow host start completedId result old middle)
    (reaches : ∀ taskId, Reaches start completedId taskId ↔ Reaches ledger completedId taskId)
    (finish : new = middle ∨ (middle.taskId = completedId ∧ new = finishFields update now middle)) :
    Walked host ledger completedId result old new := by
  constructor
  · intro named
    have shown := looped.named named
    rcases finish with same | ⟨_, finished⟩
    · exact same ▸ shown
    · have kept := finishFields_receipt update now middle
      rw [finished, kept.1, kept.2.1, (finishFields_keeps update now middle).2.1]
      exact shown
  all_goals
    intro other
    have settled := looped.others other
    have untouched : new = middle := finish.resolve_right fun here =>
      other (settled.cascaded.taskId.symm.trans here.1)
    rw [untouched]
  · intro reached
    exact settled.reached ((reaches old.taskId).mpr reached)
  · intro spared
    exact settled.spared (mt (reaches old.taskId).mp spared)

theorem completeTask_walked (result : Option Value) (now : Time)
    (found : ledger.getTask task.taskId = some task)
    (admitted : task.validateTransition .completed = true)
    (accepted : ledger.backend.next = .accepted) :
    Table.Evolves (Walked host ledger task.taskId result) ledger.tasks
      (ledger.completeTask host task.taskId result now).2.tasks := by
  have running := not_blocked_of_admitted task admitted
  rw [completeTask, (updateTaskStatus_accepted host ledger task _ now found rfl admitted accepted).2]
  simp only [stageStatus, ↓reduceIte]
  have keeps := completeFields_keeps host result (task.recordStateTransition .completed
    (StatusUpdate.transitionReason ⟨.completed, none, result,
      some "Task completed successfully", false⟩) now)
  have receipt := completeFields_receipt host result (task.recordStateTransition .completed
    (StatusUpdate.transitionReason ⟨.completed, none, result,
      some "Task completed successfully", false⟩) now)
  generalize completeFields host result _ = done at keeps receipt ⊢
  have sameId : done.taskId = task.taskId := keeps.2.2
  have status : done.status = .completed := keeps.2.1
  have reaches := putDone_reaches found sameId status keeps.1 running
  have looped := putDone_looped now found sameId status receipt.1 receipt.2
  refine (looped.trans ?_ (finish_rows _ task.taskId _ now)).rows
  intro old middle new row finish
  exact row.walked reaches finish

structure Told (completedId : TaskId) (result : Option Value) (old new : Task) : Prop where
  named : old.taskId = completedId → new.status = .completed ∧ new.result = result
  others : old.taskId ≠ completedId → new.status = old.status
  blockedBy : new.blockedBy = old.blockedBy
  context : new.context = old.context
  parent : new.parentTaskId = old.parentTaskId
  sameId : new.taskId = old.taskId

def Heard (old new : Task) : Prop :=
  { new with receivedMessages := old.receivedMessages } = old

theorem Heard.refl : Heard task task := rfl

theorem Heard.trans (a b c : Task) (first : Heard a b) (second : Heard b c) : Heard a c := by
  unfold Heard at *
  calc { c with receivedMessages := a.receivedMessages }
      = { { c with receivedMessages := b.receivedMessages } with
          receivedMessages := a.receivedMessages } := rfl
    _ = { b with receivedMessages := a.receivedMessages } := by rw [second]
    _ = a := first

theorem sendOutcome_heard (outcome : String) (result : Option Value) (now : Time) :
    Reworked Heard ledger (ledger.sendOutcome task outcome result now) := by
  unfold sendOutcome
  generalize task.dependentTaskIds = dependents
  induction dependents generalizing ledger with
  | nil => exact Reworked.refl Heard.refl ledger
  | cons dependentId rest ih =>
    have first : Reworked Heard ledger (ledger.modifyTask dependentId fun dependent =>
        { dependent with
          receivedMessages := dependent.receivedMessages ++
            [{ body := .outcome outcome result, fromTaskId := task.taskId, timestamp := now }] }) :=
      reworked_modifyTask Heard.refl ledger dependentId _ (fun _ named => named) fun _ _ => rfl
    exact first.trans Heard.trans (ih _)

theorem routeTask_success (result : Option Value) (now : Time)
    (admitted : task.validateTransition .completed = true) :
    Told task.taskId result task (routeTask host task "success" result now) := by
  simp only [routeTask, ↓reduceIte, Task.complete, Task.move, admitted, Option.getD_some]
  exact ⟨fun _ => ⟨rfl, rfl⟩, fun other => absurd rfl other, rfl, rfl, rfl, rfl⟩

theorem told_after_routing (result : Option Value) (now : Time)
    (found : ledger.getTask task.taskId = some task)
    (admitted : task.validateTransition .completed = true) :
    Reworked (Told task.taskId result) ledger
      ((ledger.putTask (routeTask host task "success" result now)).sendOutcome
        (routeTask host task "success" result now) "success" result now) := by
  have routed := routeTask_success host task result now admitted
  have written : Reworked (Told task.taskId result) ledger
      (ledger.putTask (routeTask host task "success" result now)) :=
    reworked_putTask ledger task _
      (fun other different => ⟨fun named => absurd (named.trans routed.sameId.symm) different,
        fun _ => rfl, rfl, rfl, rfl, rfl⟩)
      (by rw [routed.sameId, found]) routed
  refine written.trans ?_ (sendOutcome_heard _ _ "success" result now)
  intro a b c told heard
  have status : c.status = b.status := (congrArg Task.status heard :)
  have value : c.result = b.result := (congrArg Task.result heard :)
  have blockedBy : c.blockedBy = b.blockedBy := (congrArg Task.blockedBy heard :)
  have context : c.context = b.context := (congrArg Task.context heard :)
  have parent : c.parentTaskId = b.parentTaskId := (congrArg Task.parentTaskId heard :)
  have sameId : c.taskId = b.taskId := (congrArg Task.taskId heard :)
  refine ⟨fun named => ?_, fun other => status.trans (told.others other),
    blockedBy.trans told.blockedBy, context.trans told.context, parent.trans told.parent,
    sameId.trans told.sameId⟩
  rw [status, value]
  exact told.named named

structure Routed (ledger : SmartLedger) (task : Task) (result : Option Value)
    (old new : Task) : Prop where
  named : old.taskId = task.taskId → new.status = .completed ∧ new.result = result ∧
    new.context.resultHash = old.context.resultHash
  blockedBy : old.taskId ≠ task.taskId → new.blockedBy = old.blockedBy
  freed : old.taskId ≠ task.taskId → FreesParent ledger task old.taskId →
    new.status = .inProgress
  kept : old.taskId ≠ task.taskId → ¬ FreesParent ledger task old.taskId →
    new.status = old.status

theorem unblocked_row (blocked : parent.status = .blocked) :
    (unblocked parent now).status = .inProgress ∧
      (unblocked parent now).blockedBy = parent.blockedBy ∧
      (unblocked parent now).taskId = parent.taskId := by
  have out : parent.validateTransition .pending = true := by
    simp only [Task.validateTransition, Task.transitionRefusal, blocked]
    decide
  simp only [unblocked, Task.transitionTo, Task.move, out, ↓reduceIte, Option.getD_some]
  exact ⟨rfl, rfl, rfl⟩

/-- Whether the children are all finished reads the same before and after the
completion, the completed task apart. -/
theorem children_resolved_iff {ledger current : SmartLedger} {task : Task}
    {result : Option Value} (told : Reworked (Told task.taskId result) ledger current)
    (parentId : TaskId) :
    (current.childrenOf parentId).all (fun child => isResolved child.status) = true ↔
      ∀ child ∈ ledger.childrenOf parentId,
        child.taskId = task.taskId ∨ isResolved child.status = true := by
  have resolved (old new : Task) (row : Told task.taskId result old new) :
      isResolved new.status = true ↔ old.taskId = task.taskId ∨ isResolved old.status = true := by
    by_cases named : old.taskId = task.taskId
    · simp [named, (row.named named).1, isResolved]
    · simp [named, row.others named]
  simp only [childrenOf, List.all_eq_true, List.mem_filter, decide_eq_true_eq]
  constructor
  · rintro all child ⟨member, linked⟩
    obtain ⟨new, there, row⟩ := told.getTask_some child.taskId child
      (Table.mem_get? ledger.tasks child member)
    exact (resolved child new row).mp
      (all new ⟨Table.get?_mem current.tasks _ new there, row.parent.trans linked⟩)
  · rintro all new ⟨member, linked⟩
    obtain ⟨child, there, row⟩ := told.getTask_origin new.taskId new
      (Table.mem_get? current.tasks new member)
    exact (resolved child new row).mpr
      (all child ⟨Table.get?_mem ledger.tasks _ child there, row.parent.symm.trans linked⟩)

-- What the parent's check finds, against the ledger before the completion.
theorem freesParent_iff {ledger current : SmartLedger} {task parent : Task}
    {result : Option Value} {parentId : TaskId}
    (told : Reworked (Told task.taskId result) ledger current)
    (linked : task.parentTaskId = some parentId) (named : parentId ≠ "")
    (looked : current.getTask parentId = some parent) :
    ((current.childrenOf parentId).all (fun child => isResolved child.status) = true ∧
        parent.status = .blocked) ↔
      parentId ≠ task.taskId ∧ FreesParent ledger task parentId := by
  obtain ⟨old, found, row⟩ := told.getTask_origin parentId parent looked
  have sameId := ledger.getTask_taskId parentId old found
  rw [children_resolved_iff told parentId]
  constructor
  · rintro ⟨resolved, blocked⟩
    have other : old.taskId ≠ task.taskId := by
      intro here
      rw [(row.named here).1] at blocked
      cases blocked
    have waiting : old.status = .blocked := (row.others other).symm.trans blocked
    exact ⟨sameId ▸ other, named, linked, by simp [statusOf, found, waiting], resolved⟩
  · rintro ⟨other, _, _, waiting, resolved⟩
    simp only [statusOf, found, Option.map_some, Option.some.injEq] at waiting
    exact ⟨resolved, (row.others (sameId.symm ▸ other)).trans waiting⟩

theorem unblocked_rows (current : SmartLedger) (parentId : TaskId) (parent : Task) (now : Time)
    (looked : current.getTask parentId = some parent) (blocked : parent.status = .blocked) :
    Reworked (fun old new => if old.taskId = parentId then new.status = .inProgress ∧
      new.blockedBy = old.blockedBy else new = old) current
      (current.putTask (unblocked parent now)) := by
  have moved := unblocked_row parent now blocked
  have sameId := current.getTask_taskId parentId parent looked
  apply reworked_putTask current parent
  · intro other different
    rw [moved.2.2, sameId] at different
    simp [different]
  · rw [moved.2.2, sameId, looked]
  · simp [sameId, moved.1, moved.2.1]

theorem Told.unrouted {ledger : SmartLedger} {task old new : Task} {result : Option Value}
    (told : Told task.taskId result old new)
    (idle : old.taskId ≠ task.taskId → ¬ FreesParent ledger task old.taskId) :
    Routed ledger task result old new := by
  constructor
  · intro named
    exact ⟨(told.named named).1, (told.named named).2, congrArg Context.resultHash told.context⟩
  · intro _
    exact told.blockedBy
  · intro other frees
    exact absurd frees (idle other)
  · intro other _
    exact told.others other

theorem Told.freed {ledger : SmartLedger} {task old middle new : Task} {result : Option Value}
    (told : Told task.taskId result old middle) (other : old.taskId ≠ task.taskId)
    (frees : FreesParent ledger task old.taskId) (status : new.status = .inProgress)
    (blockedBy : new.blockedBy = middle.blockedBy) : Routed ledger task result old new := by
  constructor
  · intro named
    exact absurd named other
  · intro _
    exact blockedBy.trans told.blockedBy
  · intro _ _
    exact status
  · intro _ spared
    exact absurd frees spared

theorem completeTaskAndRoute_routed (result : Option Value) (now : Time)
    (found : ledger.getTask task.taskId = some task)
    (admitted : task.validateTransition .completed = true) :
    Table.Evolves (Routed ledger task result) ledger.tasks
      (ledger.completeTaskAndRoute host task.taskId "success" result now).2.tasks := by
  have told := told_after_routing host ledger task result now found admitted
  have routed := routeTask_success host task result now admitted
  simp only [completeTaskAndRoute, found]
  generalize routeTask host task "success" result now = done at told routed ⊢
  generalize (ledger.putTask done).sendOutcome done "success" result now = current at told ⊢
  have left (idle : ∀ taskId, taskId ≠ task.taskId → ¬ FreesParent ledger task taskId) :
      Table.Evolves (Routed ledger task result) ledger.tasks current.tasks :=
    told.rows.mono fun old _ row => row.unrouted (idle old.taskId)
  cases linked : task.parentTaskId with
  | none =>
    rw [routed.parent, linked]
    exact left fun _ _ frees => by simp [FreesParent, linked] at frees
  | some parentId =>
    have only (taskId : TaskId) (frees : FreesParent ledger task taskId) : taskId = parentId :=
      (Option.some.inj (linked.symm.trans frees.2.1)).symm
    rw [routed.parent, linked]
    by_cases empty : parentId = ""
    · simp only [nonEmpty, empty, ne_eq, not_true_eq_false, decide_false, Bool.false_eq_true,
        ↓reduceIte]
      exact left fun taskId _ frees => frees.1 ((only taskId frees).trans empty)
    · obtain ⟨row, there, shown⟩ := told.getTask_some task.taskId task found
      simp only [nonEmpty, ne_eq, empty, not_false_eq_true, decide_true, ↓reduceIte,
        checkAndUnblockParent, there, Option.bind_some, shown.parent, linked, true_and]
      cases looked : current.getTask parentId with
      | none =>
        refine left fun taskId _ frees => ?_
        have same := only taskId frees
        subst same
        obtain ⟨old, found', _⟩ := Option.map_eq_some_iff.mp frees.2.2.1
        obtain ⟨_, present, _⟩ := told.getTask_some taskId old found'
        rw [looked] at present
        cases present
      | some parent =>
        have ready := freesParent_iff told linked empty looked
        dsimp only
        split
        next finished =>
          obtain ⟨other, frees⟩ := ready.mp finished
          refine (told.trans ?_ (unblocked_rows current parentId parent now looked
            finished.2)).rows
          intro a b c first second
          by_cases here : a.taskId = parentId
          · rw [if_pos (first.sameId.trans here)] at second
            exact first.freed (here ▸ other) (here ▸ frees) second.1 second.2
          · rw [if_neg (first.sameId.symm ▸ here)] at second
            subst second
            exact first.unrouted fun _ freed => here (only a.taskId freed)
        next unfinished =>
          refine left fun taskId other frees => unfinished (ready.mpr ?_)
          have same := only taskId frees
          subst same
          exact ⟨other, frees⟩

def ReceiptKept (host : Host) (task : Task) (result : Option Value) : Prop :=
  result.bind host.resultHash = none ∨ task.context.resultHash = result.bind host.resultHash

-- The two paths on one row other than the completed task's.
theorem row_agrees_iff {host : Host} {ledger : SmartLedger} {task old left right : Task}
    {result : Option Value} (found : ledger.getTask old.taskId = some old)
    (other : old.taskId ≠ task.taskId) (walked : Walked host ledger task.taskId result old left)
    (routed : Routed ledger task result old right) :
    (left.status = right.status ↔
      (Reaches ledger task.taskId old.taskId ∧ Frees ledger task.taskId old.taskId ↔
        FreesParent ledger task old.taskId)) ∧
    (left.blockedBy = right.blockedBy ↔
      (Reaches ledger task.taskId old.taskId → task.taskId ∉ old.blockedBy)) := by
  have blockers := routed.blockedBy other
  have waiting : waitsOnlyOn task.taskId old = true → old.status = .blocked := by
    simp only [waitsOnlyOn, Bool.and_eq_true, decide_eq_true_eq]
    exact fun both => both.1
  have parent : FreesParent ledger task old.taskId → old.status = .blocked := by
    intro frees
    simpa [statusOf, found] using frees.2.2.1
  rw [frees_iff found]
  by_cases reached : Reaches ledger task.taskId old.taskId
  · have here := walked.reached other reached
    refine ⟨?_, by simp [reached, here.1, blockers, List.erase_eq_self_iff]⟩
    by_cases waits : waitsOnlyOn task.taskId old = true <;>
      by_cases frees : FreesParent ledger task old.taskId
    · simp [reached, here.2, waits, frees, routed.freed other frees]
    · simp [reached, here.2, waits, frees, routed.kept other frees, waiting waits]
    · simp [reached, here.2, waits, frees, routed.freed other frees, parent frees]
    · simp [reached, here.2, waits, frees, routed.kept other frees]
  · have here := walked.spared other reached
    refine ⟨?_, by simp [reached, here.1, blockers]⟩
    by_cases frees : FreesParent ledger task old.taskId
    · simp [reached, here.2, frees, routed.freed other frees, parent frees]
    · simp [reached, here.2, frees, routed.kept other frees]

section Agree
variable {host : Host} {ledger left right : SmartLedger} {task : Task} {result : Option Value}

theorem receipts_agree_iff (found : ledger.getTask task.taskId = some task)
    (walked : Table.Evolves (Walked host ledger task.taskId result) ledger.tasks left.tasks)
    (routed : Table.Evolves (Routed ledger task result) ledger.tasks right.tasks) :
    left.receiptOf task.taskId = right.receiptOf task.taskId ↔ ReceiptKept host task result := by
  obtain ⟨l, foundL, rowL⟩ := walked.get?_some task.taskId task found
  obtain ⟨r, foundR, rowR⟩ := routed.get?_some task.taskId task found
  have shownL := rowL.named rfl
  have shownR := rowR.named rfl
  have lookL : left.getTask task.taskId = some l := foundL
  have lookR : right.getTask task.taskId = some r := foundR
  simp only [receiptOf, lookL, lookR, Option.map_some, Option.some.injEq, Prod.mk.injEq,
    shownL, shownR, true_and, ReceiptKept]
  cases result.bind host.resultHash <;> simp [eq_comm]

theorem others_agree_iff (walked : Table.Evolves (Walked host ledger task.taskId result)
      ledger.tasks left.tasks)
    (routed : Table.Evolves (Routed ledger task result) ledger.tasks right.tasks) (id : TaskId)
    (other : id ≠ task.taskId) :
    (left.statusOf id = right.statusOf id ∧ left.blockersOf id = right.blockersOf id) ↔
      (Reaches ledger task.taskId id ∧ Frees ledger task.taskId id ↔ FreesParent ledger task id) ∧
        ∀ waiting, ledger.getTask id = some waiting →
          Reaches ledger task.taskId id → task.taskId ∉ waiting.blockedBy := by
  cases there : ledger.getTask id with
  | none =>
    have absentL : left.getTask id = none := by
      rw [getTask, Table.get?_none, walked.keys, ← Table.get?_none]
      exact there
    have absentR : right.getTask id = none := by
      rw [getTask, Table.get?_none, routed.keys, ← Table.get?_none]
      exact there
    simp [statusOf, blockersOf, absentL, absentR, Frees, FreesParent, there]
  | some old =>
    obtain ⟨l, foundL, rowL⟩ := walked.get?_some id old there
    obtain ⟨r, foundR, rowR⟩ := routed.get?_some id old there
    have lookL : left.getTask id = some l := foundL
    have lookR : right.getTask id = some r := foundR
    have here := ledger.getTask_taskId id old there
    subst here
    have agrees := row_agrees_iff there other rowL rowR
    simp only [statusOf, blockersOf, lookL, lookR, Option.map_some, Option.some.injEq]
    rw [agrees.1, agrees.2]
    simp

end Agree

/-- Completing a running task either way comes to the same, when the save goes
through, exactly when no receipt is due, no task the loop reaches lists the
completed one, and the loop resumes the freed parent and no one else. -/
theorem completion_paths_agree_iff (host : Host) (ledger : SmartLedger) (taskId : TaskId)
    (task : Task) (result : Option Value) (now : Time) (found : ledger.getTask taskId = some task)
    (admitted : task.validateTransition .completed = true)
    (accepted : ledger.backend.next = .accepted) :
    SameOutcome taskId (ledger.completeTask host taskId result now).2
        (ledger.completeTaskAndRoute host taskId "success" result now).2 ↔
      ReceiptKept host task result ∧
        (∀ id waiting, id ≠ taskId → Reaches ledger taskId id →
          ledger.getTask id = some waiting → taskId ∉ waiting.blockedBy) ∧
        ∀ id, id ≠ taskId →
          (Reaches ledger taskId id ∧ Frees ledger taskId id ↔ FreesParent ledger task id) := by
  have named := ledger.getTask_taskId taskId task found
  subst named
  have walked := completeTask_walked host ledger task result now found admitted accepted
  have routed := completeTaskAndRoute_routed host ledger task result now found admitted
  have receipt := receipts_agree_iff found walked routed
  have entry (id : TaskId) (other : id ≠ task.taskId) := others_agree_iff walked routed id other
  constructor
  · rintro ⟨others, same⟩
    refine ⟨receipt.mp same, fun id waiting other reached there => ?_, fun id other => ?_⟩
    · exact ((entry id other).mp (others id other)).2 waiting there reached
    · exact ((entry id other).mp (others id other)).1
  · rintro ⟨kept, unlisted, parent⟩
    refine ⟨fun id other => ?_, receipt.mpr kept⟩
    exact (entry id other).mpr ⟨parent id other,
      fun waiting there reached => unlisted id waiting other reached there⟩

def onlyChild : Task :=
  { sampleTask "a" .inProgress with parentTaskId := some "p", dependentTaskIds := ["p"] }

def blockedParent : Task := { sampleTask "p" .blocked with childTaskIds := ["a"] }

/-- A parent that waits for its only child is resumed either way. -/
theorem only_child_paths_agree :
    let ledger := sampleLedger [onlyChild, blockedParent] .accepted
    SameOutcome "a" (ledger.completeTask sampleHost "a" none 5).2
      (ledger.completeTaskAndRoute sampleHost "a" "success" none 5).2 := by
  intro ledger
  have reaches (id : TaskId) : Reaches ledger "a" id ↔ id = "p" := by
    constructor
    · intro reached
      induction reached with
      | direct link => exact List.mem_singleton.mp link
      | beyond _ _ link before =>
        subst before
        cases link
    · rintro rfl
      exact Reaches.direct (by decide)
  have parent (id : TaskId) : FreesParent ledger onlyChild id ↔ id = "p" := by
    constructor
    · rintro ⟨_, named, _⟩
      exact (Option.some.inj named).symm
    · rintro rfl
      exact ⟨by decide, rfl, by decide, by decide⟩
  apply (completion_paths_agree_iff sampleHost ledger "a" onlyChild none 5 rfl (by decide) rfl).mpr
  refine ⟨Or.inl rfl, ?_, ?_⟩
  · intro id waiting _ reached found
    cases (reaches id).mp reached
    cases found
    decide
  · intro id _
    rw [reaches, parent, and_iff_left_iff_imp]
    rintro rfl
    exact ⟨blockedParent, rfl, by decide⟩

/-- A dependent blocked by the task is resumed on one path and left on the other,
and only one path leaves a receipt. -/
theorem completion_paths_differ :
    let ledger := sampleLedger [workingTask, waitingTask] .accepted
    let completed := (ledger.completeTask sampleHost "a" (some (.text "done")) 5).2
    let routed := (ledger.completeTaskAndRoute sampleHost "a" "success" (some (.text "done")) 5).2
    workingTask.validateTransition .completed = true ∧
      completed.statusOf "b" = some .inProgress ∧ routed.statusOf "b" = some .blocked ∧
      completed.blockersOf "b" = some [] ∧ routed.blockersOf "b" = some ["a"] ∧
      completed.receiptOf "a" = some (.completed, some (.text "done"), some "digest") ∧
      routed.receiptOf "a" = some (.completed, some (.text "done"), none) ∧
      ¬ SameOutcome "a" completed routed := by
  refine ⟨by decide, by decide, by decide, by decide, by decide, by decide, by decide, ?_⟩
  intro same
  have statuses := (same.others "b" (by decide)).1
  revert statuses
  decide

end Hartos.SmartLedger
