import Hartos.CompletionPaths
import Hartos.LedgerSteps
import Hartos.StepSystem

/-!
What a completion delivers. The sender's outbox is handed over whole, and nothing
ever empties it; each message is one dict, which every receiver's list then refers
to. The rows of the ledger show what is delivered, a heap of dicts who shares it.
-/
namespace Hartos.SmartLedger
open TaskStatus KeyedTable

def stamp (now : Time) (message : Message) : Message := { message with receivedAt := some now }

theorem map_stamp_stamp (earlier later : Time) (messages : List Message) :
    (messages.map (stamp earlier)).map (stamp later) = messages.map (stamp later) := by
  simp only [List.map_map]
  rfl

/-- A row that was sent what `extra` says under its id. The outbox keeps its
messages, stamped or not. -/
structure Mailed (now : Time) (extra : TaskId → List Message) (old new : Task) : Prop where
  sameId : new.taskId = old.taskId
  received : new.receivedMessages = old.receivedMessages ++ extra old.taskId
  outbox : new.messagesToDependents.map (stamp now) = old.messagesToDependents.map (stamp now)

def nothing (_ : TaskId) : List Message := []

def onlyTo (taskId : TaskId) (messages : List Message) (wanted : TaskId) : List Message :=
  if wanted = taskId then messages else []

section Rows
variable {now : Time} {extra : TaskId → List Message} {before middle after : SmartLedger}
variable {first second third : Task} (task : Task) (ledger : SmartLedger)

theorem Mailed.still : Mailed now nothing task task :=
  ⟨rfl, (List.append_nil _).symm, rfl⟩

theorem Mailed.of_same {old new : Task} (sameId : new.taskId = old.taskId)
    (received : new.receivedMessages = old.receivedMessages)
    (outbox : new.messagesToDependents = old.messagesToDependents) : Mailed now nothing old new :=
  ⟨sameId, received.trans (List.append_nil _).symm, congrArg _ outbox⟩

theorem Mailed.then_still (one : Mailed now extra first second)
    (two : Mailed now nothing second third) : Mailed now extra first third :=
  ⟨two.sameId.trans one.sameId, by rw [two.received, one.received, nothing, List.append_nil],
    two.outbox.trans one.outbox⟩

theorem Mailed.after_still (one : Mailed now nothing first second)
    (two : Mailed now extra second third) : Mailed now extra first third :=
  ⟨two.sameId.trans one.sameId,
    by rw [two.received, one.received, nothing, List.append_nil, one.sameId],
    two.outbox.trans one.outbox⟩

theorem mailed_absent (taskId : TaskId) (messages : List Message)
    (absent : ledger.getTask taskId = none) :
    Reworked (Mailed now (onlyTo taskId messages)) ledger ledger := by
  have unchanged : Reworked (Mailed now nothing) ledger ledger := Reworked.refl Mailed.still ledger
  apply unchanged.sharpen
  intro wanted old new foundOld _ same
  have other : old.taskId ≠ taskId := by
    intro here
    rw [← here, ledger.getTask_self wanted old foundOld] at absent
    cases absent
  exact ⟨same.sameId, by rw [same.received, onlyTo, if_neg other, nothing], same.outbox⟩

theorem mailed_putTask (task new : Task) (messages : List Message)
    (found : ledger.getTask task.taskId = some task)
    (row : Mailed now (onlyTo task.taskId messages) task new) :
    Reworked (Mailed now (onlyTo task.taskId messages)) ledger (ledger.putTask new) := by
  apply reworked_putTask ledger task new ?_ (row.sameId ▸ found) row
  intro other different
  rw [row.sameId] at different
  exact ⟨rfl, by rw [onlyTo, if_neg different, List.append_nil], rfl⟩

theorem still_putTask (task new : Task) (found : ledger.getTask task.taskId = some task)
    (row : Mailed now nothing task new) :
    Reworked (Mailed now nothing) ledger (ledger.putTask new) :=
  reworked_putTask ledger task new (fun other _ => Mailed.still other) (row.sameId ▸ found) row

theorem receiveMessages_mail (received : List Message) (now : Time) :
    (task.receiveMessages received now).receivedMessages = task.receivedMessages ++ received ∧
      (task.receiveMessages received now).messagesToDependents = task.messagesToDependents ∧
      (task.receiveMessages received now).taskId = task.taskId := by
  cases received with
  | nil => simp [Task.receiveMessages]
  | cons first rest => exact ⟨rfl, rfl, rfl⟩

theorem removeBlockingTask_still (blocker : TaskId) :
    Mailed now nothing task (task.removeBlockingTask blocker now) := by
  simp only [Task.removeBlockingTask]
  split
  · exact Mailed.of_same rfl rfl rfl
  · exact Mailed.still task

theorem resume_still (task resumed : Task) (reason : String)
    (moved : task.resume reason now = some resumed) : Mailed now nothing task resumed := by
  simp only [Task.resume, Task.move] at moved
  split at moved
  · cases moved
    exact Mailed.of_same rfl rfl rfl
  · cases moved

theorem deliver_mailed (senderId dependentId : TaskId) (sender : Task)
    (found : ledger.getTask senderId = some sender) :
    Reworked (Mailed now (onlyTo dependentId (sender.messagesToDependents.map (stamp now)))) ledger
      (ledger.deliver senderId dependentId now) := by
  have self := ledger.getTask_self senderId sender found
  have stamped : Reworked (Mailed now nothing) ledger (ledger.putTask
      { sender with messagesToDependents := sender.messagesToDependents.map (stamp now) }) :=
    still_putTask ledger sender _ self
      ⟨rfl, (List.append_nil _).symm, map_stamp_stamp now now _⟩
  have received (current : SmartLedger) (messages : List Message) :
      Reworked (Mailed now (onlyTo dependentId messages)) current
        (current.modifyTask dependentId (·.receiveMessages messages now)) := by
    cases looked : current.getTask dependentId with
    | none =>
      simp only [modifyTask, looked]
      exact mailed_absent current dependentId messages looked
    | some dependent =>
      have named := current.getTask_taskId dependentId dependent looked
      have mail := receiveMessages_mail dependent messages now
      simp only [modifyTask, looked]
      subst named
      exact mailed_putTask current dependent _ messages looked
        ⟨mail.2.2, by rw [mail.1, onlyTo, if_pos rfl], congrArg _ mail.2.1⟩
  simp only [deliver, found]
  exact stamped.trans (fun _ _ _ first second => first.after_still second) (received _ _)

/-- One visit: a direct dependent gets the whole outbox, no one else gets anything. -/
theorem visitDependent_mailed (senderId : TaskId) (direct : List TaskId)
    (state : SmartLedger × List TaskId) (dependentId : TaskId) (sender : Task)
    (found : state.1.getTask senderId = some sender) :
    Reworked (Mailed now (onlyTo dependentId (if dependentId ∈ direct then
        sender.messagesToDependents.map (stamp now) else []))) state.1
      (visitDependent senderId direct now state dependentId).1.1 := by
  apply visitDependent_rows
  · intro absent
    exact mailed_absent state.1 dependentId _ absent
  · by_cases listed : dependentId ∈ direct
    · simp only [listed, ↓reduceIte]
      exact deliver_mailed state.1 senderId dependentId sender found
    · simp only [listed, ↓reduceIte]
      have unchanged : Reworked (Mailed now nothing) state.1 state.1 :=
        Reworked.refl Mailed.still state.1
      refine unchanged.mono ?_
      intro old new same
      refine ⟨same.sameId, same.received.trans ?_, same.outbox⟩
      simp only [onlyTo, nothing, ite_self]
  · intro old new mailed _
    exact mailed.then_still (removeBlockingTask_still new senderId)
  · intro old new reason after mailed _ _ moved
    exact mailed.then_still (resume_still new after reason moved)

end Rows

/-- Where the loop stands: everyone seen among the direct dependents has the
sender's messages, and no direct dependent is lost sight of. -/
structure Handed (now : Time) (start : SmartLedger) (direct : List TaskId)
    (messages : List Message) (queue visited : List TaskId) (state : SmartLedger × List TaskId) :
    Prop where
  rows : Reworked (Mailed now fun id => if id ∈ visited ∧ id ∈ direct then messages else []) start
    state.1
  seeds : ∀ id ∈ direct, id ∈ visited ∨ id ∈ queue

section Loop
variable {now : Time} {start : SmartLedger} {senderId : TaskId} {sender : Task}
  {direct queue visited : List TaskId} {state : SmartLedger × List TaskId}
variable {key : TaskId} {messages : List Message}

theorem Handed.drop (old : key ∈ visited)
    (holds : Handed now start direct messages (key :: queue) visited state) :
    Handed now start direct messages queue visited state :=
  ⟨holds.rows, fun id member => Worklist.still_known old (holds.seeds id member)⟩

theorem Handed.step (found : start.getTask senderId = some sender) (fresh : key ∉ visited)
    (holds : Handed now start direct (sender.messagesToDependents.map (stamp now)) (key :: queue)
      visited state) :
    Handed now start direct (sender.messagesToDependents.map (stamp now))
      (queue ++ (visitDependent senderId direct now state key).2.filter (· ∉ key :: visited))
      (key :: visited) (visitDependent senderId direct now state key).1 := by
  refine ⟨?_, fun id member => Worklist.known_after_visit _ (holds.seeds id member)⟩
  obtain ⟨current, there, row⟩ := holds.rows.getTask_some senderId sender found
  refine holds.rows.trans ?_ (visitDependent_mailed senderId direct state key current there)
  intro first second third one two
  refine ⟨two.sameId.trans one.sameId, ?_, two.outbox.trans one.outbox⟩
  rw [two.received, one.received, one.sameId, row.outbox, List.append_assoc]
  by_cases here : first.taskId = key
  · simp [onlyTo, here, fresh]
  · simp [onlyTo, here]

theorem Handed.begins : Handed now start direct messages direct [] (start, []) := by
  refine ⟨?_, fun id member => Or.inr member⟩
  apply Reworked.refl
  intro task
  exact ⟨rfl, by simp, rfl⟩

theorem loop_mailed (found : start.getTask senderId = some sender) :
    Reworked (Mailed now fun id =>
        if id ∈ direct then sender.messagesToDependents.map (stamp now) else []) start
      (Worklist.walk (visitDependent senderId direct now) (start.walkFuel direct) direct []
        (start, [])).state.1 := by
  have handed := (Worklist.walk_rule _
    (Handed now start direct (sender.messagesToDependents.map (stamp now)))
    (fun _ _ _ _ old holds => holds.drop old) (fun _ _ _ _ fresh holds => holds.step found fresh)
    (start.walkFuel direct) direct [] (start, []) Handed.begins).1
  have ends := start.handleTaskCompletion_ends senderId direct now
  apply handed.rows.mono
  intro old new row
  refine ⟨row.sameId, ?_, row.outbox⟩
  rw [row.received]
  by_cases listed : old.taskId ∈ direct
  · have seen : old.taskId ∈ (Worklist.walk (visitDependent senderId direct now)
        (start.walkFuel direct) direct [] (start, [])).visited := by
      simpa [ends] using handed.seeds old.taskId listed
    simp [listed, seen]
  · simp [listed]

end Loop

def createdMessages (taskId : TaskId) (result : Option Value) (now : Time) : List Message :=
  (result.map fun data =>
      { body := .result data .completed, fromTaskId := taskId, timestamp := now }).toList ++
    [{ body := .completion (some now), fromTaskId := taskId, timestamp := now }]

variable (host : Host) (ledger : SmartLedger) (task : Task) (update : StatusUpdate) (now : Time)

theorem announce_outbox (completed : task.completedAt = some now) :
    (announce task now).messagesToDependents =
      task.messagesToDependents ++ createdMessages task.taskId task.result now := by
  simp only [announce, Task.sendMessageToDependents, createdMessages]
  cases task.result with
  | none => simp [completed]
  | some data => simp [completed]

theorem announce_keeps :
    (announce task now).taskId = task.taskId ∧
      (announce task now).receivedMessages = task.receivedMessages := by
  simp only [announce]
  split <;> exact ⟨rfl, rfl⟩

/-- A row that was sent `extra` and has itself put `sent` in its outbox. -/
structure Posted (now : Time) (extra sent : TaskId → List Message) (old new : Task) : Prop where
  sameId : new.taskId = old.taskId
  received : new.receivedMessages = old.receivedMessages ++ extra old.taskId
  outbox : new.messagesToDependents.map (stamp now) =
    (old.messagesToDependents ++ sent old.taskId).map (stamp now)

section Posting
variable {now : Time} {extra sent : TaskId → List Message} {first second third : Task}

theorem Posted.still (task : Task) : Posted now nothing nothing task task :=
  ⟨rfl, (List.append_nil _).symm, by rw [nothing, List.append_nil]⟩

theorem Posted.of_same (sameId : second.taskId = first.taskId)
    (received : second.receivedMessages = first.receivedMessages)
    (outbox : second.messagesToDependents = first.messagesToDependents) :
    Posted now nothing nothing first second :=
  ⟨sameId, received.trans (List.append_nil _).symm, by rw [outbox, nothing, List.append_nil]⟩

theorem Posted.after_still (one : Posted now nothing nothing first second)
    (two : Posted now extra sent second third) : Posted now extra sent first third := by
  refine ⟨two.sameId.trans one.sameId, ?_, ?_⟩
  · rw [two.received, one.received, nothing, List.append_nil, one.sameId]
  · rw [two.outbox, List.map_append, one.outbox, nothing, List.append_nil, one.sameId,
      List.map_append]

theorem Posted.then_still (one : Posted now extra sent first second)
    (two : Posted now nothing nothing second third) : Posted now extra sent first third := by
  refine ⟨two.sameId.trans one.sameId, ?_, ?_⟩
  · rw [two.received, one.received, nothing, List.append_nil]
  · rw [two.outbox, nothing, List.append_nil, one.outbox]

/-- First the sender fills its outbox, then the loop hands it out. -/
theorem Posted.then_mailed (one : Posted now nothing sent first second)
    (two : Mailed now extra second third) : Posted now extra sent first third := by
  refine ⟨two.sameId.trans one.sameId, ?_, two.outbox.trans one.outbox⟩
  rw [two.received, one.received, nothing, List.append_nil, one.sameId]

end Posting

theorem handleTaskCompletion_posted (found : ledger.getTask task.taskId = some task)
    (completed : task.completedAt = some now) :
    Reworked (Posted now (fun id => if id ∈ ledger.dependentsOf task.taskId then
        (task.messagesToDependents ++ createdMessages task.taskId task.result now).map (stamp now)
      else []) (onlyTo task.taskId (createdMessages task.taskId task.result now))) ledger
      (ledger.handleTaskCompletion host task.taskId now).1 := by
  have keeps := announce_keeps task now
  have announced : Reworked (Posted now nothing
      (onlyTo task.taskId (createdMessages task.taskId task.result now))) ledger
      (ledger.putTask (announce task now)) := by
    apply reworked_putTask ledger task
    · intro other different
      rw [keeps.1] at different
      refine ⟨rfl, (List.append_nil _).symm, ?_⟩
      rw [onlyTo, if_neg different, List.append_nil]
    · rw [keeps.1, found]
    · refine ⟨keeps.1, keeps.2.trans (List.append_nil _).symm, ?_⟩
      rw [announce_outbox task now completed, onlyTo, if_pos rfl]
  have row : (ledger.putTask (announce task now)).getTask task.taskId =
      some (announce task now) := by
    rw [getTask_putTask, if_pos keeps.1]
  have direct := mem_direct host (ledger.putTask (announce task now)) (announce task now)
    (by rw [keeps.1]; exact row)
  have links := ((announced_steady ledger task now found).mono
    fun _ _ row => row.cascaded.links).dependentsOf
  rw [keeps.1, links] at direct
  simp only [handleTaskCompletion, found]
  apply announced.trans _ (loop_mailed row)
  intro first second third one two
  refine one.then_mailed ⟨two.sameId, ?_, two.outbox⟩
  rw [two.received]
  simp only [direct, announce_outbox task now completed]

/-- A completion that went through was alone in its batch, admitted, and saved. -/
theorem completion_saved (taskId : TaskId) (update : StatusUpdate) (now : Time)
    (completing : update.status = .completed)
    (success : (ledger.updateTaskStatus host taskId update now).1 = true) :
    ∃ task, ledger.getTask taskId = some task ∧ update.deferSave = false ∧
      task.validateTransition update.status = true ∧ ledger.backend.next = .accepted := by
  cases updateTaskStatus_cases host ledger taskId update now with
  | unchanged ends | undone _ _ _ _ _ ends =>
    rw [ends] at success
    cases success
  | deferred task found _ deferred _ =>
    simp [updateTaskStatus, found, deferred, completing] at success
  | done task found valid durable accepted _ => exact ⟨task, found, durable, valid, accepted⟩

structure CompletedRow (result : Option Value) (now : Time) (old new : Task) : Prop where
  sameId : new.taskId = old.taskId
  received : new.receivedMessages = old.receivedMessages
  outbox : new.messagesToDependents = old.messagesToDependents
  links : SameLinks old new
  completedAt : new.completedAt = some now
  result : new.result = result

theorem completedRow_keeps (result : Option Value) (task : Task) (reason : String) (now : Time) :
    CompletedRow result now task
      (completeFields host result (task.recordStateTransition .completed reason now)) :=
  ⟨rfl, rfl, rfl, ⟨rfl, rfl⟩, rfl, rfl⟩

theorem finishFields_mail (task : Task) :
    (finishFields update now task).receivedMessages = task.receivedMessages ∧
      (finishFields update now task).messagesToDependents = task.messagesToDependents := by
  simp only [finishFields]
  split <;> split <;> exact ⟨rfl, rfl⟩

/-- What every task has received, and what the sender has kept, once a completion
is through. -/
theorem completion_posted (found : ledger.getTask task.taskId = some task)
    (completing : update.status = .completed)
    (success : (ledger.updateTaskStatus host task.taskId update now).1 = true) :
    Table.Evolves (Posted now (fun id => if id ∈ ledger.dependentsOf task.taskId then
        (task.messagesToDependents ++ createdMessages task.taskId update.result now).map (stamp now)
      else []) (onlyTo task.taskId (createdMessages task.taskId update.result now))) ledger.tasks
      (ledger.updateTaskStatus host task.taskId update now).2.tasks := by
  obtain ⟨same, there, durable, admitted, accepted⟩ :=
    completion_saved host ledger task.taskId update now completing success
  have this : same = task := Option.some.inj (there.symm.trans found)
  subst this
  rw [(updateTaskStatus_accepted host ledger same update now found durable admitted accepted).2]
  simp only [stageStatus, completing, ↓reduceIte]
  have done := completedRow_keeps host update.result same update.transitionReason now
  generalize completeFields host update.result
    (same.recordStateTransition .completed update.transitionReason now) = completed at done ⊢
  have recorded : Reworked (Posted now nothing nothing) ledger (ledger.putTask completed) :=
    reworked_putTask ledger same completed (fun other _ => Posted.still other)
      (by rw [done.sameId, found]) (Posted.of_same done.sameId done.received done.outbox)
  have row : (ledger.putTask completed).getTask completed.taskId = some completed := by
    rw [getTask_putTask, if_pos rfl]
  have linked : Reworked SameLinks ledger (ledger.putTask completed) :=
    reworked_putTask ledger same completed (fun other _ => ⟨rfl, rfl⟩)
      (by rw [done.sameId, found]) done.links
  have cascade := handleTaskCompletion_posted host (ledger.putTask completed) completed now row
    done.completedAt
  rw [done.sameId, done.outbox, done.result, linked.dependentsOf] at cascade
  have finished (current : SmartLedger) : Reworked (Posted now nothing nothing) current
      (current.modifyTask same.taskId (finishFields update now)) := by
    apply reworked_modifyTask Posted.still
    · intro task named
      exact (finishFields_keeps update now task).2.2.trans named
    · intro task _
      have mail := finishFields_mail update now task
      exact Posted.of_same (finishFields_keeps update now task).2.2 mail.1 mail.2
  exact ((recorded.trans (fun _ _ _ one two => one.after_still two) cascade).trans
    (fun _ _ _ one two => one.then_still two) (finished _)).rows

end Hartos.SmartLedger
