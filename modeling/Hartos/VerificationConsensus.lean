import Hartos.Ballots
import Hartos.ClaimAtomicity
import Hartos.StepSystem
import Hartos.VerificationProtocol

/-!
What a consensus is worth, and what a rejection comes to. The protocol counts
ballots, whoever cast them and on whichever result, so its count is one of agents
only while each votes once on the result in question. A rejected task is rolled
back, and a task rolled back is final.
-/
namespace Hartos.VerificationProtocol
open TaskStatus KeyedTable

def ballots (records : List VerificationRecord) (hash : String) :
    List (Ballots.Ballot AgentId) :=
  (records.filter fun record => record.resultHash = hash).map fun record =>
    ⟨record.agentId, record.verified⟩

def AcceptanceJustified (protocol : VerificationProtocol) (taskId : TaskId) : Prop :=
  ∃ task, protocol.ledger.getTask taskId = some task ∧
    Ballots.Carried minVerifiers (ballots (protocol.verifications taskId) (currentHash task))

/-- An accepting answer of `check_consensus` is a justified one. -/
def AcceptsJustified (protocol : VerificationProtocol) (event : VerificationEvent) : Prop :=
  ∀ taskId snapshotId now report, event = .checkConsensus taskId snapshotId now →
    (protocol.checkConsensus taskId snapshotId now).1 = some report →
    report.accepted = some true → AcceptanceJustified protocol taskId

/-- A verdict comes from an agent that gave none on the task; a consensus is asked
for while all verdicts are on the result the task has. -/
def InOrder (protocol : VerificationProtocol) : VerificationEvent → Prop
  | .submitVerification taskId verifyingAgent _ _ _ =>
      verifyingAgent ∉ (protocol.verifications taskId).map VerificationRecord.agentId
  | .checkConsensus taskId _ _ => ∀ record ∈ protocol.verifications taskId,
      (protocol.ledger.getTask taskId).map currentHash = some record.resultHash
  | _ => True

instance (protocol : VerificationProtocol) (event : VerificationEvent) :
    Decidable (InOrder protocol event) := by
  cases event with
  | submitVerification taskId verifyingAgent =>
    exact inferInstanceAs (Decidable
      (verifyingAgent ∉ (protocol.verifications taskId).map VerificationRecord.agentId))
  | checkConsensus taskId =>
    exact inferInstanceAs (Decidable (∀ record ∈ protocol.verifications taskId,
      (protocol.ledger.getTask taskId).map currentHash = some record.resultHash))
  | requestVerification => exact isTrue trivial
  | ledgerCall => exact isTrue trivial

def OneVoteEach (protocol : VerificationProtocol) : Prop :=
  ∀ taskId, ((protocol.verifications taskId).map VerificationRecord.agentId).Nodup

variable (task : Task) (reason : String) (protocol : VerificationProtocol) (taskId : TaskId)
  (snapshotId : String) (now : Time)

theorem submitVerification_records (verifyingAgent : AgentId) (verdict : Bool)
    (evidence : List (String × Value)) (now : Time) :
    (protocol.submitVerification taskId verifyingAgent verdict evidence now).verifications =
        protocol.verifications ∨
      ∃ hash, (protocol.submitVerification taskId verifyingAgent verdict evidence now).verifications =
        (protocol.recordVerification taskId ⟨verifyingAgent, hash, verdict, now⟩).verifications := by
  simp only [submitVerification]
  cases protocol.ledger.getTask taskId with
  | none => exact Or.inl rfl
  | some task =>
    right
    refine ⟨currentHash task, ?_⟩
    dsimp only
    split
    · rfl
    · cases appendEvidence task.context.extra _ <;> rfl

theorem checkConsensus_records :
    (protocol.checkConsensus taskId snapshotId now).2.verifications = protocol.verifications := by
  simp only [checkConsensus]
  split
  · split
    · simp only [createSnapshot]
      cases protocol.ledger.backend.next <;> rfl
    · rfl
  · rfl

theorem requestVerification_records (host : Host) (protocol : VerificationProtocol)
    (taskId : TaskId) (now : Time) :
    (protocol.requestVerification host taskId now).2.verifications = protocol.verifications := by
  simp only [requestVerification]
  split
  · rfl
  · split
    · split
      · rfl
      · split
        · rfl
        · split <;> rfl
    · rfl

-- The step lemma: a run in order has one vote of each agent on a task.
theorem step_oneVoteEach (event : VerificationEvent) (before : OneVoteEach protocol)
    (order : InOrder protocol event) : OneVoteEach (protocol.step event) := by
  intro id
  cases event with
  | requestVerification taskId host now =>
    rw [step, requestVerification_records]
    exact before id
  | checkConsensus taskId snapshotId now =>
    rw [step, checkConsensus_records]
    exact before id
  | ledgerCall call => exact before id
  | submitVerification taskId verifyingAgent verdict evidence now =>
    have records := protocol.submitVerification_records taskId verifyingAgent verdict evidence now
    rw [step]
    rcases records with same | ⟨hash, recorded⟩
    · rw [same]
      exact before id
    · rw [recorded]
      simp only [recordVerification]
      by_cases here : id = taskId
      · subst here
        rw [if_pos rfl, List.map_append, List.nodup_append]
        refine ⟨before id, by simp, ?_⟩
        intro agent voted other new same
        simp only [List.map_cons, List.map_nil, List.mem_singleton] at new
        exact order (new ▸ same ▸ voted)
      · rw [if_neg here]
        exact before id

theorem accepted_counts (report : ConsensusReport)
    (answered : (protocol.checkConsensus taskId snapshotId now).1 = some report)
    (accepted : report.accepted = some true) :
    minVerifiers ≤ protocol.total taskId ∧ protocol.total taskId < 2 * protocol.agreed taskId := by
  simp only [checkConsensus] at answered
  split at answered
  next reached =>
    split at answered
    next majority => exact ⟨of_decide_eq_true reached, of_decide_eq_true majority⟩
    next refused =>
      cases answered
      simp [VerificationProtocol.report, reached, refused] at accepted
  next missed =>
    cases answered
    simp [VerificationProtocol.report, missed] at accepted

theorem acceptance_justified (oneEach : OneVoteEach protocol)
    (current : ∀ record ∈ protocol.verifications taskId,
      (protocol.ledger.getTask taskId).map currentHash = some record.resultHash)
    (enough : minVerifiers ≤ protocol.total taskId)
    (majority : protocol.total taskId < 2 * protocol.agreed taskId) :
    AcceptanceJustified protocol taskId := by
  cases found : protocol.ledger.getTask taskId with
  | none =>
    -- A verdict would have been on a task that is not there.
    cases records : protocol.verifications taskId with
    | nil => simp [total, records, minVerifiers] at enough
    | cons record rest =>
      have impossible := current record (by simp [records])
      simp [found] at impossible
  | some task =>
    have all : (protocol.verifications taskId).filter
        (fun record => record.resultHash = currentHash task) = protocol.verifications taskId := by
      rw [List.filter_eq_self]
      intro record member
      have same := current record member
      rw [found, Option.map_some, Option.some.injEq] at same
      exact decide_eq_true same.symm
    refine ⟨task, found, ?_⟩
    have votes : (ballots (protocol.verifications taskId) (currentHash task)) =
        (protocol.verifications taskId).map fun record => ⟨record.agentId, record.verified⟩ := by
      rw [ballots, all]
    have approvals : Ballots.approvals (ballots (protocol.verifications taskId) (currentHash task)) =
        protocol.agreed taskId := by
      rw [votes, Ballots.approvals, List.filter_map, List.length_map]
      rfl
    apply Ballots.carried_of_counts
    · rw [votes, List.map_map]
      exact oneEach taskId
    · rw [votes, List.length_map]
      exact enough
    · rw [approvals, votes, List.length_map]
      exact majority

/-- While no agent votes twice on a task and a consensus is asked for on the result
that was voted on, acceptance takes enough agents and most of them. -/
theorem consensus_justified (run : List VerificationEvent) (protocol : VerificationProtocol)
    (oneEach : OneVoteEach protocol)
    (ordered : StepSystem.Along step InOrder protocol run) :
    StepSystem.Along step AcceptsJustified protocol run := by
  apply StepSystem.along_of_invariant step OneVoteEach InOrder AcceptsJustified
    step_oneVoteEach _ run protocol oneEach ordered
  rintro state _ votes order taskId snapshotId now report rfl answered accepted
  have counts := state.accepted_counts taskId snapshotId now report answered accepted
  exact state.acceptance_justified taskId votes order counts.1 counts.2

def sampleProtocol : VerificationProtocol where
  ledger := SmartLedger.sampleLedger
    [{ SmartLedger.sampleTask "t" .completed with
      result := some (.text "done"), context := { resultHash := some "digest" } }] .accepted
  verifications := fun _ => []
  snapshots := []

theorem two_agents_justified :
    StepSystem.Along step AcceptsJustified sampleProtocol
      [.submitVerification "t" "first" true [] 1, .submitVerification "t" "second" true [] 2,
        .checkConsensus "t" "snap" 3] :=
  consensus_justified _ sampleProtocol (fun _ => List.nodup_nil) (by decide)

/-- One agent voting twice makes a consensus. -/
theorem one_agent_makes_consensus :
    ¬ StepSystem.Along step AcceptsJustified sampleProtocol
      [.submitVerification "t" "first" true [] 1, .submitVerification "t" "first" true [] 2,
        .checkConsensus "t" "snap" 3] := by
  rintro ⟨_, _, last, _⟩
  obtain ⟨task, found, carried⟩ := last "t" "snap" 3 _ rfl rfl rfl
  cases found
  revert carried
  decide

def Claimable (ledger : SmartLedger) (taskId : TaskId) : Prop :=
  ∃ (Lock : Type) (_ : TaskLock Lock) (lock : Lock) (host : Host) (agentId : AgentId)
    (capabilities : Option (List String)) (now : Time),
    ((⟨ledger, lock⟩ : Coordinator Lock).claimNextTask host agentId capabilities now).1 =
      some taskId

structure ResetToPending (after : VerificationProtocol) (taskId : TaskId) : Prop where
  claimable : Claimable after.ledger taskId
  withdrawn : ∀ task, after.ledger.getTask taskId = some task →
    task.status ≠ .completed ∧ task.result = none
  persisted : after.ledger.backend.stored = some after.ledger.image
  settled : ∀ snapshotId now, (after.checkConsensus taskId snapshotId now).2.ledger = after.ledger

-- A claim takes tasks that wait or run, and none of another status.
theorem claimable_status (ledger : SmartLedger) (taskId : TaskId) (task : Task)
    (found : ledger.getTask taskId = some task) (claimable : Claimable ledger taskId) :
    task.status = .pending ∨ task.status = .deferred ∨ task.status = .inProgress := by
  obtain ⟨Lock, _, lock, host, agentId, capabilities, now, claimed⟩ := claimable
  have rows := ((⟨ledger, lock⟩ : Coordinator Lock).claimNextTask_ledger host agentId capabilities
    now).rows
  obtain ⟨new, _, row⟩ := rows.get?_some taskId task found
  apply (row.granted _).unfinished
  rw [claimed, ledger.getTask_taskId taskId task found]
  exact List.mem_singleton_self taskId

theorem rejectedTask_completed (completed : task.status = .completed) :
    (rejectedTask task reason now).status = .rolledBack ∧
      (rejectedTask task reason now).result = none ∧
      (rejectedTask task reason now).originalResult = task.result ∧
      (rejectedTask task reason now).taskId = task.taskId := by
  simp only [rejectedTask, Task.rollback, Task.moveFrom, completed, ↓reduceIte, Option.getD_some]
  exact ⟨rfl, rfl, rfl, rfl⟩

-- A finished task is left as it is, unless it is COMPLETED.
theorem rejectedTask_final (open' : task.status ≠ .completed) (final : task.isTerminal = true) :
    rejectedTask task reason now = task := by
  simp [rejectedTask, open', final]

theorem checkConsensus_rejects (reached : protocol.consensusReached taskId = true)
    (rejected : protocol.accepts taskId = false) :
    (protocol.checkConsensus taskId snapshotId now).2 =
      protocol.handleRejection taskId "Consensus rejected the result" now := by
  simp [checkConsensus, reached, rejected]

section Rejection
variable {protocol : VerificationProtocol} {taskId : TaskId} {task : Task}
variable (found : protocol.ledger.getTask taskId = some task) (completed : task.status = .completed)
variable (reached : protocol.consensusReached taskId = true)
variable (rejected : protocol.accepts taskId = false)
include found completed reached rejected

/-- What a rejection does: the task is ROLLED_BACK in memory, its result set aside;
the backend is not written, and a second answer finds nothing left to do. -/
theorem rejection_rolls_back (snapshotId : String) (now : Time) :
    ∃ rolled, (protocol.checkConsensus taskId snapshotId now).2.ledger =
        protocol.ledger.putTask rolled ∧
      (protocol.ledger.putTask rolled).getTask taskId = some rolled ∧
      rolled.status = .rolledBack ∧ rolled.result = none ∧
      rolled.originalResult = task.result ∧
      ∀ snapshotId' now', ((protocol.checkConsensus taskId snapshotId now).2.checkConsensus taskId
        snapshotId' now').2.ledger = protocol.ledger.putTask rolled := by
  have facts := rejectedTask_completed task "Consensus rejected the result" now completed
  have named := protocol.ledger.getTask_taskId taskId task found
  have handled := checkConsensus_rejects protocol taskId snapshotId now reached rejected
  have first : protocol.handleRejection taskId "Consensus rejected the result" now =
      ⟨protocol.ledger.putTask (rejectedTask task "Consensus rejected the result" now),
        protocol.verifications, protocol.snapshots⟩ := by
    simp [handleRejection, SmartLedger.modifyTask, found]
  generalize rejectedTask task "Consensus rejected the result" now = rolled at facts first
  have row : (protocol.ledger.putTask rolled).getTask taskId = some rolled := by
    rw [SmartLedger.getTask_putTask, if_pos (facts.2.2.2.trans named)]
  rw [handled, first]
  refine ⟨rolled, rfl, row, facts.1, facts.2.1, facts.2.2.1, ?_⟩
  intro snapshotId' now'
  have again : rejectedTask rolled "Consensus rejected the result" now' = rolled := by
    apply rejectedTask_final
    · simp [facts.1]
    · simp [Task.isTerminal, facts.1, isTerminalState]
  -- The verdicts are as they were, so the second answer is the first.
  rw [checkConsensus_rejects ⟨protocol.ledger.putTask rolled, protocol.verifications,
    protocol.snapshots⟩ taskId snapshotId' now' reached rejected]
  simp only [handleRejection, SmartLedger.modifyTask, row, again]
  simp only [SmartLedger.putTask, Table.set_set protocol.ledger.tasks rolled rolled rfl]

/-- No rejection of a completed task puts it back in the queue. -/
theorem rejection_never_resets (snapshotId : String) (now : Time) :
    ¬ ResetToPending (protocol.checkConsensus taskId snapshotId now).2 taskId := by
  intro reset
  obtain ⟨rolled, after, there, status, _⟩ :=
    rejection_rolls_back found completed reached rejected snapshotId now
  have claimable := reset.claimable
  rw [after] at claimable
  have open' := claimable_status _ taskId rolled there claimable
  rw [status] at open'
  rcases open' with pending | deferred | running
  · cases pending
  · cases deferred
  · cases running

end Rejection

def rejectedProtocol : VerificationProtocol :=
  StepSystem.final step sampleProtocol
    [.submitVerification "t" "first" false [] 1, .submitVerification "t" "second" false [] 2]

theorem rejected_result_not_reset :
    ¬ ResetToPending (rejectedProtocol.checkConsensus "t" "snap" 3).2 "t" :=
  rejection_never_resets rfl rfl rfl rfl "snap" 3

theorem rejections_do_not_reset :
    ¬ ∀ (protocol : VerificationProtocol) (taskId : TaskId) (task : Task),
      protocol.ledger.getTask taskId = some task → task.status = .completed →
      protocol.consensusReached taskId = true → protocol.accepts taskId = false →
      ResetToPending (protocol.checkConsensus taskId "snap" 3).2 taskId := by
  intro promised
  have reset := promised rejectedProtocol "t" _ rfl rfl rfl rfl
  have open' := claimable_status _ "t" _ rfl reset.claimable
  revert open'
  decide

end Hartos.VerificationProtocol
