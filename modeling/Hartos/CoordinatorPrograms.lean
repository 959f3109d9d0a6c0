import Hartos.CoordinatorEvents
import Hartos.GoalRedispatch

/-!
The calls of a coordinator access by access. A call takes no lock of its own:
between one access to the ledger or to the task lock and the next, the calls of
other threads and processes go on. What runs under the lock of the ledger, and one
command to the task lock, is a single access; a save is one too, at its write. A
call hands out only tasks it has locked, and takes no finished task back.
-/
namespace Hartos
open TaskStatus KeyedTable
open SmartLedger (StatusUpdate)

inductive Note where
  | blockedReason (reason : BlockedReason)
  | recovered
  | claimed (agentId : AgentId)
  | unclaimed

def Note.write (now : Time) (task : Task) : Note → Task
  | .blockedReason reason => task.setBlockedReason (some reason.value) now
  | .recovered => clearClaim { task.setBlockedReason none now with errorMessage := none }
  | .claimed agentId => stampClaim agentId now task
  | .unclaimed => clearClaim task

/-- `submit_goal` in parts that write the storage at most once. -/
inductive GoalPart where
  | heal (goalId : TaskId)
  | refresh (goalId : TaskId) (context : Context)
  | reopen (goalId : TaskId)
  | release (goalId : TaskId)
  -- The goal was not known when the call looked.
  | stage (goalId : TaskId) (objective : String) (definitions : List TaskDefinition)
      (context : Context)

def GoalPart.work (host : Host) (ledger : SmartLedger) (now : Time) : GoalPart → SmartLedger
  | .heal goalId => (ledger.healGoalTypeDemands goalId).2
  | .refresh goalId context => (ledger.refreshRequester goalId context).2
  | .reopen goalId => (ledger.reopenFinishedRun goalId now).2
  | .release goalId => (ledger.releaseHeldTasks host goalId now).2
  | .stage goalId objective definitions context =>
      match SmartLedger.readHop context with
      | none => ledger
      | some hop =>
          if hop ≥ hiveDepth then ledger
          else
            (ledger.stageGoal host objective definitions
              { context with hop := some (.number hop) } goalId now).2

inductive Access where
  | undeferTask (taskId : TaskId)
  | updateTaskStatus (taskId : TaskId) (update : StatusUpdate)
  | deferTask (taskId : TaskId) (reason : String) (till : Stamp)
  | note (taskId : TaskId) (written : Note)
  | save
  | restore (snapshots : Snapshots)
  | goal (part : GoalPart)
  | isTaskLocked (taskId : TaskId)
  | tryClaimTask (taskId : TaskId) (agentId : AgentId)
  | releaseTask (taskId : TaskId) (agentId : AgentId)

def Coordinator.access {Lock : Type} [TaskLock Lock] (host : Host) (c : Coordinator Lock)
    (now : Time) : Access → Bool × Coordinator Lock
  | .undeferTask taskId =>
      let outcome := c.ledger.undeferTask taskId "temporary worker deferral elapsed" now
      (outcome.1, { c with ledger := outcome.2 })
  | .updateTaskStatus taskId update =>
      let outcome := c.ledger.updateTaskStatus host taskId update now
      (outcome.1, { c with ledger := outcome.2 })
  | .deferTask taskId reason till =>
      let outcome := c.ledger.deferTask taskId reason (some till) now
      (outcome.1, { c with ledger := outcome.2 })
  | .note taskId written =>
      (true, { c with ledger := c.ledger.modifyTask taskId fun task => written.write now task })
  | .save => (c.ledger.save.1, { c with ledger := c.ledger.save.2 })
  | .restore snapshots => (true, { c with ledger := c.ledger.restoreSnapshots snapshots })
  | .goal part => (true, { c with ledger := part.work host c.ledger now })
  | .isTaskLocked taskId => (isTaskLocked c.lock taskId now, c)
  | .tryClaimTask taskId agentId =>
      let outcome := tryClaimTask c.lock taskId agentId now
      (outcome.1, { c with lock := outcome.2 })
  | .releaseTask taskId agentId =>
      let outcome := releaseTask c.lock taskId agentId now
      (outcome.1, { c with lock := outcome.2 })

inductive Answer where
  | claimed (taskIds : List TaskId)
  | submitted (taskId : TaskId)
  -- Anything else, an exception included.
  | ended

inductive Program (Lock : Type) where
  | done (answer : Answer)
  -- Reading rows and the clock.
  | look (next : Coordinator Lock → Time → Program Lock)
  | access (access : Access) (next : Bool → Program Lock)

namespace Program
variable {Lock : Type} (host : Host) (agentId : AgentId) (capabilities : Option (List String))

variable (task : Task) (taskId : TaskId) (next : Program Lock)

def reread (next : Task → Time → Program Lock) : Program Lock :=
  .look fun c now => next ((c.ledger.getTask task.taskId).getD task) now

def update (taskId : TaskId) (update : StatusUpdate) (refused next : Program Lock) : Program Lock :=
  .access (.updateTaskStatus taskId update) fun moved => if moved then next else refused

def restore (snapshots : Snapshots) (next : Program Lock) : Program Lock :=
  .access (.restore snapshots) fun _ => next

def commit (snapshots : Snapshots) (failed next : Program Lock) : Program Lock :=
  .access .save fun saved => if saved then next else restore snapshots failed

def release : Program Lock :=
  .access (.releaseTask taskId agentId) fun _ => next

def releaseStagedClaims (taskIds : List TaskId) (next : Program Lock) : Program Lock :=
  taskIds.foldr (release agentId) next

/-- `staged` goes on with the copy taken under the lock. -/
def stageTaskClaim (busy refused : Program Lock) (staged : Task → Program Lock) : Program Lock :=
  .access (.tryClaimTask task.taskId agentId) fun locked =>
    if locked then
      reread task fun copy _ =>
        update task.taskId { status := .inProgress, deferSave := true }
          (restore [copy] (release agentId task.taskId refused))
          (.access (.note task.taskId (.claimed agentId)) fun _ => staged copy)
    else busy

/-- What is left of a pass of `claim_next_task` at a task that is ready; `next` is the next pass. -/
def attemptClaim : Program Lock :=
  reread task fun task _ =>
    if capable capabilities task then
      stageTaskClaim agentId task next next fun copy =>
        commit [copy] (release agentId task.taskId (.done (.claimed [])))
          (.done (.claimed [task.taskId]))
    else next

def recoverOrphan (next recovered : Program Lock) : Program Lock :=
  reread task fun task now => match claimAge task now with
    | none => next
    | some age =>
        if age > host.orphanAfter then
          .access (.isTaskLocked task.taskId) fun locked =>
            if locked then next
            else reread task fun copy _ =>
              let undo := restore [copy] next
              update task.taskId expireClaim undo
                (.access (.note task.taskId (.blockedReason .resourceUnavailable)) fun _ =>
                  update task.taskId makeAvailable undo
                    (.access (.note task.taskId .recovered) fun _ => commit [copy] next recovered))
        else next

def readyTask : Program Lock :=
  reread task fun task _ =>
    if task.status = .inProgress ∧ SmartLedger.nonEmpty task.parentTaskId ∧
        task.childTaskIds = [] then
      recoverOrphan host task next (attemptClaim agentId capabilities task next)
    else reread task fun task _ =>
      if task.status = .pending then attemptClaim agentId capabilities task next else next

def claimPass : Program Lock :=
  .look fun c now => match c.ledger.getTask taskId with
    | none => next
    | some task =>
        let ready := readyTask host agentId capabilities task next
        if task.status = .deferred then
          if deferIsDue task now then
            .access (.undeferTask taskId) fun moved => if moved then ready else next
          else next
        else ready

/-- The loop goes over the order as it stands at each pass: others add to it and
take from it meanwhile, so only `passes` bounds it. -/
def claimNextTask : Nat → Nat → Program Lock
  | 0, _ => .done (.claimed [])
  | passes + 1, index => .look fun c _ => match c.ledger.taskOrder[index]? with
    | none => .done (.claimed [])
    | some taskId => claimPass host agentId capabilities taskId (claimNextTask passes (index + 1))

def commitBatch (batch : Coordinator.Batch) : Program Lock :=
  if batch.claimed.isEmpty then .done (.claimed [])
  else commit batch.snapshots (releaseStagedClaims agentId batch.claimed (.done (.claimed [])))
    (.done (.claimed batch.claimed))

def claimParallelBatch (maxTasks : Int) : Nat → Nat → Coordinator.Batch → Program Lock
  | 0, _, batch => commitBatch agentId batch
  | passes + 1, index, batch =>
      let next := claimParallelBatch maxTasks passes (index + 1)
      .look fun c _ => match c.ledger.taskOrder[index]? with
        | none => commitBatch agentId batch
        | some taskId =>
            if (batch.claimed.length : Int) ≥ maxTasks then commitBatch agentId batch
            else .look fun c _ => match c.ledger.getTask taskId with
              | none => next batch
              | some task =>
                  if task.status = .pending ∧ task.executionMode = .parallel ∧
                      capable capabilities task then
                    stageTaskClaim agentId task (next batch)
                      (restore batch.snapshots
                        (releaseStagedClaims agentId batch.claimed (.done (.claimed []))))
                      fun copy =>
                        next ⟨batch.claimed ++ [task.taskId], batch.snapshots ++ [copy]⟩
                  else next batch

def submitResult (result : Option Value) : Program Lock :=
  if Coordinator.hashable host result then
    update taskId
      { status := .completed, result := result, reason := some "Task completed successfully" }
      (release agentId taskId (.done .ended)) (release agentId taskId (.done (.submitted taskId)))
  else .done .ended

def deferTask (taskId : TaskId) (reason : String) (retryAfterS : Int) : Program Lock :=
  .look fun c now => match c.ledger.getTask taskId with
    | none => .done .ended
    | some copy =>
        let released := release agentId taskId (.done .ended)
        .access (.note taskId .unclaimed) fun _ =>
          .access (.deferTask taskId ("temporary worker deferral: " ++ reason)
              (.at (now + seconds (max 1 retryAfterS)))) fun moved =>
            if moved then released else restore [copy] released

def holdTask (reason history : String) : Program Lock :=
  let released := release agentId taskId (.done .ended)
  .look fun c _ => match c.ledger.getTask taskId with
    | none => released
    | some copy =>
        update taskId
          { status := .blocked, errorMessage := some reason, reason := some history,
            deferSave := true }
          (restore [copy] released)
          (.access (.note taskId (.blockedReason .inputRequired)) fun _ =>
            commit [copy] released released)

def part (work : GoalPart) (next : Program Lock) : Program Lock := .access (.goal work) fun _ => next

def submitGoal (objective : String) (definitions : List TaskDefinition) (context : Context)
    (goalId : TaskId) : Program Lock :=
  .look fun c _ =>
    if goalId ∈ c.ledger.tasks.keys then
      let released := part (.release goalId) (.done .ended)
      part (.heal goalId) (part (.refresh goalId context)
        (if context.continuous = some true then part (.reopen goalId) released else released))
    else part (.stage goalId objective definitions context) (.done .ended)

end Program

def CoordinatorEvent.program {Lock : Type} (host : Host) (passes : Nat) :
    CoordinatorEvent → Program Lock
  | .claimNextTask agentId capabilities _ =>
      Program.claimNextTask host agentId capabilities passes 0
  | .claimParallelBatch agentId maxTasks capabilities _ =>
      Program.claimParallelBatch agentId capabilities maxTasks passes 0 ⟨[], []⟩
  | .submitResult agentId taskId result _ => Program.submitResult host agentId taskId result
  | .abandonTask agentId taskId _ => Program.release agentId taskId (.done .ended)
  | .deferTask agentId taskId reason retryAfterS _ =>
      Program.deferTask agentId taskId reason retryAfterS
  | .holdTask agentId taskId reason history _ => Program.holdTask agentId taskId reason history

def Finished (ids : List TaskId) (tasks : TaskTable) : Prop :=
  ∀ id ∈ ids, ∃ task, tasks.get? id = some task ∧ task.status = .completed

namespace Finished
variable {ids : List TaskId} {before after : TaskTable} (finished : Finished ids before)
include finished

theorem shown (id : TaskId) (task : Task) (found : before.get? id = some task) (member : id ∈ ids) :
    task.status = .completed := by
  obtain ⟨row, there, completed⟩ := finished id member
  rw [← Option.some.inj (there.symm.trans found)]
  exact completed

theorem subset {known : List TaskId} (subset : known ⊆ ids) : Finished known before :=
  fun id member => finished id (subset member)

theorem evolves {related : Task → Task → Prop} (evolution : Table.Evolves related before after)
    (keeps : ∀ old new, old.taskId ∈ ids → related old new → old.status = .completed →
      new.status = .completed) : Finished ids after := by
  intro id member
  obtain ⟨old, found, completed⟩ := finished id member
  obtain ⟨new, there, change⟩ := evolution.get?_some id old found
  have named := before.get?_key id old found
  exact ⟨new, there, keeps old new (named.symm ▸ member) change completed⟩

theorem congr (same : ∀ id ∈ ids, after.get? id = before.get? id) : Finished ids after := by
  intro id member
  rw [same id member]
  exact finished id member

theorem set (new : Task)
    (keeps : new.taskId ∈ ids → new.status = .completed) : Finished ids (before.set new) := by
  intro id member
  by_cases same : new.taskId = id
  · subst same
    exact ⟨new, before.get?_set_self new, keeps member⟩
  · obtain ⟨task, found, completed⟩ := finished id member
    refine ⟨task, ?_, completed⟩
    rw [Table.get?_set, if_neg same]
    exact found

end Finished

/-- The tasks that a ledger is known to show finished; `none` where nobody keeps track. -/
abbrev Known := Option (List TaskId)

def Unknown (known : Known) (taskId : TaskId) : Prop := ∀ ids ∈ known, taskId ∉ ids

def ShownCopy (known : Known) (copy : Task) : Prop :=
  ∀ ids ∈ known, copy.taskId ∈ ids → copy.status = .completed

namespace Access

def LocksFor (agentId : AgentId) : Access → Prop
  | .tryClaimTask _ other => other = agentId
  | _ => True

def locked (owned : List TaskId) (replied : Bool) : Access → List TaskId
  | .tryClaimTask taskId _ => if replied then taskId :: owned else owned
  | .releaseTask taskId _ => owned.filter (· ≠ taskId)
  | _ => owned

def written (replied : Bool) : Access → List TaskId
  | .updateTaskStatus taskId update =>
      if replied ∧ update.status = .completed then [taskId] else []
  | _ => []

/-- Only a submission completes a task, and a copy put back shows what is known. -/
def Careful (known : Known) : Access → Prop
  | .updateTaskStatus _ update =>
      if update.deferSave then update.status ≠ .completed ∧ update.status ≠ .rolledBack
      else update.status = .completed
  | .restore snapshots => ∀ copy ∈ snapshots, ShownCopy known copy
  | _ => True

def Tells (known : Known) (replied : Bool) : Access → Prop
  | .updateTaskStatus taskId update =>
      replied = true → update.status ≠ .completed → Unknown known taskId
  | _ => True

theorem tells_none (access : Access) (replied : Bool) : access.Tells none replied := by
  cases access with
  | updateTaskStatus => exact fun _ _ => nofun
  | _ => trivial

end Access

/-- The rest of a call of `agentId` that has locked `owned`. -/
def Sound {Lock : Type} (agentId : AgentId) : List TaskId → Known → Program Lock → Prop
  | owned, known, .done (.claimed taskIds) => ∀ id ∈ taskIds, id ∈ owned ∧ Unknown known id
  | _, known, .done (.submitted taskId) => ∀ ids ∈ known, taskId ∈ ids
  | _, _, .done .ended => True
  | owned, known, .look next => ∀ c now, (∀ ids ∈ known, Finished ids c.ledger.tasks) →
      Sound agentId owned known (next c now)
  | owned, known, .access access next => access.LocksFor agentId ∧ access.Careful known ∧
      ∀ replied, access.Tells known replied → Sound agentId (access.locked owned replied)
        (known.map (access.written replied ++ ·)) (next replied)

namespace Sound
variable {Lock : Type} {agentId : AgentId} {owned : List TaskId} {known : Known}
  {refused next : Program Lock}
variable (host : Host) (capabilities : Option (List String)) (task : Task)

theorem unclaimed : Sound agentId owned known (.done (.claimed []) : Program Lock) :=
  List.forall_mem_nil _

/-- The rule for an access that completes no task. -/
theorem quiet {access : Access} {next : Bool → Program Lock} (careful : access.Careful known)
    (locks : access.LocksFor agentId) (writes : ∀ replied, access.written replied = [])
    (goesOn : ∀ replied, Sound agentId (access.locked owned replied) known (next replied)) :
    Sound agentId owned known (.access access next) := by
  refine ⟨locks, careful, fun replied _ => ?_⟩
  have same : known.map (access.written replied ++ ·) = known := by
    rw [writes]
    exact Option.map_id'
  rw [same]
  exact goesOn replied

theorem reread {next : Task → Time → Program Lock}
    (goesOn : ∀ copy now, copy.taskId = task.taskId → ShownCopy known copy →
      Sound agentId owned known (next copy now)) :
    Sound agentId owned known (.reread task next) := by
  intro c now finished
  dsimp only
  cases found : c.ledger.getTask task.taskId with
  | none =>
    apply goesOn task now rfl
    intro ids here member
    obtain ⟨row, there, _⟩ := finished ids here task.taskId member
    cases found.symm.trans there
  -- A finished task is COMPLETED in the copy that was read.
  | some copy =>
    have named := c.ledger.getTask_taskId task.taskId copy found
    apply goesOn copy now named
    intro ids here
    exact (finished ids here).shown copy.taskId copy (named.symm ▸ found)

theorem restore {snapshots : Snapshots} (copies : ∀ copy ∈ snapshots, ShownCopy known copy)
    (goesOn : Sound agentId owned known next) :
    Sound agentId owned known (.restore snapshots next) :=
  quiet copies trivial (fun _ => rfl) fun _ => goesOn

theorem commit {snapshots : Snapshots} (copies : ∀ copy ∈ snapshots, ShownCopy known copy)
    (refuses : Sound agentId owned known refused) (goesOn : Sound agentId owned known next) :
    Sound agentId owned known (.commit snapshots refused next) := by
  refine quiet trivial trivial (fun _ => rfl) fun saved => ?_
  cases saved with
  | true => exact goesOn
  | false => exact restore copies refuses

theorem update (taskId : TaskId) (update : StatusUpdate) (deferred : update.deferSave = true)
    (moves : update.status ≠ .completed ∧ update.status ≠ .rolledBack)
    (refuses : Sound agentId owned known refused)
    (goesOn : Unknown known taskId → Sound agentId owned known next) :
    Sound agentId owned known (.update taskId update refused next) := by
  refine ⟨trivial, ?_, fun moved tells => ?_⟩
  · simp only [Access.Careful, deferred, ↓reduceIte]
    exact moves
  · have same : known.map ((Access.updateTaskStatus taskId update).written moved ++ ·) = known := by
      simp only [Access.written, moves.1, and_false, ↓reduceIte]
      exact Option.map_id'
    rw [same]
    cases moved with
    | true => exact goesOn (tells rfl moves.1)
    | false => exact refuses

theorem release (taskId : TaskId) (goesOn : ∀ owned, Sound agentId owned known next) :
    Sound agentId owned known (.release agentId taskId next) :=
  quiet trivial trivial (fun _ => rfl) fun _ => goesOn _

theorem releaseStagedClaims (taskIds : List TaskId)
    (goesOn : ∀ owned, Sound agentId owned known next) (owned : List TaskId) :
    Sound agentId owned known (.releaseStagedClaims agentId taskIds next) := by
  -- What is still owned does not matter to what follows.
  induction taskIds generalizing owned with
  | nil => exact goesOn owned
  | cons taskId rest ih => exact release taskId ih

theorem stageTaskClaim {busy : Program Lock} {staged : Task → Program Lock}
    (passes : Sound agentId owned known busy) (undone : ∀ owned, Sound agentId owned known refused)
    (goesOn : ∀ copy, ShownCopy known copy → Unknown known task.taskId →
      Sound agentId (task.taskId :: owned) known (staged copy)) :
    Sound agentId owned known (.stageTaskClaim agentId task busy refused staged) := by
  refine quiet trivial rfl (fun _ => rfl) fun granted => ?_
  cases granted with
  | false => exact passes
  | true =>
    simp only [↓reduceIte]
    apply reread
    intro copy now _ shown
    apply update _ _ rfl (by decide)
    · exact restore (List.forall_mem_singleton.mpr shown) (release _ undone)
    · intro other
      exact quiet trivial trivial (fun _ => rfl) fun _ => goesOn copy shown other

section

variable (idle : ∀ owned, Sound agentId owned known next)
include idle

theorem attemptClaim (owned : List TaskId) :
    Sound agentId owned known (.attemptClaim agentId capabilities task next) := by
  apply reread
  intro task now _ _
  split
  · apply stageTaskClaim _ (idle owned) idle
    intro copy shown other
    apply commit (List.forall_mem_singleton.mpr shown)
    · exact release _ fun _ => unclaimed
    · exact List.forall_mem_singleton.mpr ⟨List.mem_cons_self, other⟩
  · exact idle owned

theorem recoverOrphan {recovered : Program Lock} (owned : List TaskId)
    (goesOn : Sound agentId owned known recovered) :
    Sound agentId owned known (.recoverOrphan host task next recovered) := by
  apply reread
  intro task now _ _
  split
  · exact idle owned
  · split
    · refine quiet trivial trivial (fun _ => rfl) fun locked => ?_
      split
      · exact idle owned
      · apply reread
        intro copy now _ shown
        have copies := List.forall_mem_singleton.mpr shown
        have undone := restore copies (idle owned)
        apply update _ _ rfl (by decide) undone
        intro _
        refine quiet trivial trivial (fun _ => rfl) fun _ => ?_
        apply update _ _ rfl (by decide) undone
        intro _
        exact quiet trivial trivial (fun _ => rfl) fun _ => commit copies (idle owned) goesOn
    · exact idle owned

theorem claimPass (taskId : TaskId) (owned : List TaskId) :
    Sound agentId owned known (.claimPass host agentId capabilities taskId next) := by
  have ready (task : Task) :
      Sound agentId owned known (.readyTask host agentId capabilities task next) := by
    have attempt (task : Task) := attemptClaim capabilities task idle owned
    apply reread
    intro task now _ _
    split
    · exact recoverOrphan host task idle owned (attempt task)
    · apply reread
      intro task now _ _
      split
      · exact attempt task
      · exact idle owned
  intro c now _
  dsimp only
  split
  · exact idle owned
  · split
    · split
      · refine quiet trivial trivial (fun _ => rfl) fun moved => ?_
        cases moved with
        | true => exact ready _
        | false => exact idle owned
      · exact idle owned
    · exact ready _

end

theorem claimNextTask (passes index : Nat) (owned : List TaskId) :
    Sound agentId owned known
      (.claimNextTask host agentId capabilities passes index : Program Lock) := by
  -- One pass for each task of the order; an idle pass goes on with what is owned by then.
  induction passes generalizing index owned with
  | zero => exact unclaimed
  | succ passes ih =>
    intro c now _
    dsimp only
    split
    · exact unclaimed
    · exact claimPass host capabilities (ih (index + 1)) _ owned

/-- A batch hands out what it has claimed, or gives all of it back. -/
theorem claimParallelBatch (maxTasks : Int) (passes index : Nat) (batch : Coordinator.Batch)
    (owned : List TaskId) (claimed : ∀ id ∈ batch.claimed, id ∈ owned ∧ Unknown known id)
    (copies : ∀ copy ∈ batch.snapshots, ShownCopy known copy) :
    Sound agentId owned known
      (.claimParallelBatch agentId capabilities maxTasks passes index batch : Program Lock) := by
  have given (taskIds : List TaskId) (owned : List TaskId) :
      Sound agentId owned known
        (.releaseStagedClaims agentId taskIds (.done (.claimed [])) : Program Lock) :=
    releaseStagedClaims taskIds (fun _ => unclaimed) owned
  have commits (batch : Coordinator.Batch) (owned : List TaskId)
      (claimed : ∀ id ∈ batch.claimed, id ∈ owned ∧ Unknown known id)
      (copies : ∀ copy ∈ batch.snapshots, ShownCopy known copy) :
      Sound agentId owned known (.commitBatch agentId batch : Program Lock) := by
    unfold Program.commitBatch
    split
    · exact unclaimed
    · exact commit copies (given _ _) claimed
  -- The batch grows task by task, and each snapshot is the way back of its claim.
  induction passes generalizing index batch owned with
  | zero => exact commits batch owned claimed copies
  | succ passes ih =>
    have passed := ih (index + 1) batch owned claimed copies
    intro c now _
    dsimp only
    split
    · exact commits batch owned claimed copies
    · split
      · exact commits batch owned claimed copies
      · intro c now _
        dsimp only
        split
        · exact passed
        · split
          · apply stageTaskClaim _ passed fun owned => restore copies (given _ owned)
            intro copy shown other
            apply ih
            · intro id member
              rcases List.mem_append.mp member with earlier | here
              · exact ⟨List.mem_cons_of_mem _ (claimed id earlier).1, (claimed id earlier).2⟩
              · rw [List.mem_singleton.mp here]
                exact ⟨List.mem_cons_self, other⟩
            · exact List.forall_mem_append.mpr ⟨copies, List.forall_mem_singleton.mpr shown⟩
          · exact passed

theorem program [TaskLock Lock] (passes : Nat) (call : CoordinatorEvent) :
    Sound call.agent [] known (call.program host passes : Program Lock) := by
  have released (agentId : AgentId) (taskId : TaskId) :
      Sound agentId [] known (.release agentId taskId (.done .ended) : Program Lock) :=
    release taskId fun _ => trivial
  cases call with
  | claimNextTask agentId capabilities now => exact claimNextTask host capabilities passes 0 []
  | claimParallelBatch agentId maxTasks capabilities now =>
    exact claimParallelBatch capabilities maxTasks passes 0 ⟨[], []⟩ [] (List.forall_mem_nil _)
      (List.forall_mem_nil _)
  | submitResult agentId taskId result now =>
    change Sound agentId [] known (.submitResult host agentId taskId result)
    unfold Program.submitResult
    split
    · refine ⟨trivial, rfl, fun moved _ => ?_⟩
      cases moved with
      -- The completion is written, so the task is known when the call answers.
      | true =>
        refine release taskId fun _ ids here => ?_
        obtain ⟨earlier, _, rfl⟩ := Option.map_eq_some_iff.mp here
        exact List.mem_cons_self
      | false => exact release taskId fun _ => trivial
    · trivial
  | abandonTask agentId taskId now => exact released agentId taskId
  | deferTask agentId taskId reason retryAfterS now =>
    intro c now finished
    dsimp only
    split
    · trivial
    next copy found =>
      have named := c.ledger.getTask_taskId taskId copy found
      have shown : ShownCopy known copy := fun ids here =>
        (finished ids here).shown copy.taskId copy (named.symm ▸ found)
      refine quiet trivial trivial (fun _ => rfl) fun _ =>
        quiet trivial trivial (fun _ => rfl) fun moved => ?_
      cases moved with
      | true => exact released agentId taskId
      | false => exact restore (List.forall_mem_singleton.mpr shown) (released agentId taskId)
  | holdTask agentId taskId reason history now =>
    intro c now finished
    dsimp only
    split
    · exact released agentId taskId
    next copy found =>
      have named := c.ledger.getTask_taskId taskId copy found
      have shown : ShownCopy known copy := fun ids here =>
        (finished ids here).shown copy.taskId copy (named.symm ▸ found)
      have copies := List.forall_mem_singleton.mpr shown
      apply update _ _ rfl (by simp)
      · exact restore copies (released agentId taskId)
      · intro _
        exact quiet trivial trivial (fun _ => rfl) fun _ =>
          commit copies (released agentId taskId) (released agentId taskId)

theorem submitGoal (objective : String) (definitions : List TaskDefinition) (context : Context)
    (goalId : TaskId) :
    Sound agentId owned known
      (.submitGoal objective definitions context goalId : Program Lock) := by
  have part (work : GoalPart) {next : Program Lock} (goesOn : Sound agentId owned known next) :
      Sound agentId owned known (.part work next) :=
    quiet trivial trivial (fun _ => rfl) fun _ => goesOn
  intro c now _
  dsimp only
  split
  · have ends : Sound agentId owned known (.part (.release goalId) (.done .ended)) :=
      part _ trivial
    apply part
    apply part
    split
    · exact part _ ends
    · exact ends
  · exact part _ trivial

end Sound

end Hartos
