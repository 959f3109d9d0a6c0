import Hartos.LedgerRuns

/-!
The verification of results by other agents. Verdicts are appended to a list for
each task, in Redis or in the process; a consensus is a count over that list, and
what follows from it is done to the task in memory. Notifications, and the request
published to other hosts, are left out.
-/
namespace Hartos
open TaskStatus

structure VerificationRecord where
  agentId : AgentId
  resultHash : String
  verified : Bool
  timestamp : Time
  deriving DecidableEq

structure Snapshot where
  snapshotId : String
  label : String
  createdAt : Time
  tasks : List (TaskId × Status × String × Option String)

structure VerificationProtocol where
  ledger : SmartLedger
  verifications : TaskId → List VerificationRecord
  snapshots : List Snapshot

/-- What `check_consensus` returns; its threshold is the constant one half. -/
structure ConsensusReport where
  taskId : TaskId
  consensusReached : Bool
  accepted : Option Bool
  agreed : Nat
  total : Nat
  minVerifiers : Nat
  actionTaken : Option String
  baselineSnapshot : Option String
  deriving DecidableEq

namespace VerificationProtocol

def minVerifiers : Nat := 2

def currentHash (task : Task) : String := task.context.resultHash.getD ""

structure VerificationRequest where
  taskId : TaskId
  resultHash : Option String
  requestedAt : Time
  minVerifiers : Nat

def requestVerification (host : Host) (protocol : VerificationProtocol) (taskId : TaskId)
    (now : Time) : Option (Except String VerificationRequest) × VerificationProtocol :=
  match protocol.ledger.getTask taskId with
  | none => (some (.error s!"Task {taskId} not found"), protocol)
  | some task =>
      if task.status = .completed then
        let asked : VerificationRequest := ⟨taskId, task.context.resultHash, now, minVerifiers⟩
        if SmartLedger.nonEmpty task.context.resultHash then (some (.ok asked), protocol)
        else match task.result with
          | none => (some (.ok asked), protocol)
          | some result => match host.resultHash result with
            | none => (none, protocol)
            | some hash =>
                let hashed := { task with context := { task.context with resultHash := some hash } }
                (some (.ok { asked with resultHash := some hash }),
                  { protocol with ledger := (protocol.ledger.putTask hashed).save.2 })
      else (some (.error s!"Task {taskId} not completed (status={task.status.value})"), protocol)

variable (protocol : VerificationProtocol) (taskId : TaskId)

def recordVerification (record : VerificationRecord) : VerificationProtocol :=
  { protocol with
    verifications := fun id =>
      if id = taskId then protocol.verifications id ++ [record] else protocol.verifications id }

/-- The list under this key of the context, one entry longer. Anything else than a
list there has no `append`. -/
def appendEvidence (extra : List (String × Value)) (entry : Value) :
    Option (List (String × Value)) :=
  match extra.lookup "verification_evidence" with
  | none => some (extra ++ [("verification_evidence", .list [entry])])
  | some (.list items) => some (extra.map fun field =>
      if field.1 = "verification_evidence" then (field.1, .list (items ++ [entry])) else field)
  | some _ => none

def submitVerification (verifyingAgent : AgentId) (verdict : Bool)
    (evidence : List (String × Value)) (now : Time) :
    VerificationProtocol :=
  match protocol.ledger.getTask taskId with
  | none => protocol
  | some task =>
      let recorded := protocol.recordVerification taskId
        ⟨verifyingAgent, currentHash task, verdict, now⟩
      if evidence.isEmpty then recorded
      else
        let entry := Value.dict [("agent", .text verifyingAgent), ("verdict", .bool verdict),
          ("evidence", .dict evidence), ("timestamp", .number now)]
        match appendEvidence task.context.extra entry with
        | none => recorded
        | some extra =>
            let noted := { task with context := { task.context with extra := extra } }
            { recorded with ledger := (protocol.ledger.putTask noted).save.2 }

def agreed : Nat :=
  ((protocol.verifications taskId).filter VerificationRecord.verified).length

def total : Nat :=
  (protocol.verifications taskId).length

def consensusReached : Bool :=
  decide (minVerifiers ≤ protocol.total taskId)

def accepts : Bool :=
  decide (protocol.total taskId < 2 * protocol.agreed taskId)

def rejectedTask (task : Task) (reason : String) (now : Time) : Task :=
  let rolled :=
    if task.status = .completed then (task.rollback reason now).getD task else task
  if rolled.isTerminal then rolled
  else (rolled.fail reason "Verification rejected" now).getD rolled

def handleRejection (reason : String) (now : Time) : VerificationProtocol :=
  { protocol with ledger := protocol.ledger.modifyTask taskId fun t => rejectedTask t reason now }

def createSnapshot (snapshotId label : String) (now : Time) : Bool × VerificationProtocol :=
  let tasks := protocol.ledger.tasks.rows.map fun task =>
    (task.taskId, task.status, task.description, task.context.resultHash)
  let ledger := { protocol.ledger with
    backend := { protocol.ledger.backend with writes := protocol.ledger.backend.writes + 1 } }
  match protocol.ledger.backend.next with
  | .accepted =>
      (true, { protocol with
        ledger := ledger
        snapshots := protocol.snapshots ++ [⟨snapshotId, label, now, tasks⟩] })
  | .rejected => (true, { protocol with ledger := ledger })
  | .raised => (false, { protocol with ledger := ledger })

def report : ConsensusReport where
  taskId := taskId
  consensusReached := protocol.consensusReached taskId
  accepted := if protocol.consensusReached taskId then some (protocol.accepts taskId) else none
  agreed := protocol.agreed taskId
  total := protocol.total taskId
  minVerifiers := minVerifiers
  actionTaken := none
  baselineSnapshot := none

def checkConsensus (snapshotId : String) (now : Time) :
    Option ConsensusReport × VerificationProtocol :=
  if protocol.consensusReached taskId then
    if protocol.accepts taskId then
      let snapshot := protocol.createSnapshot snapshotId s!"verified_{taskId}" now
      (if snapshot.1 then
        some { protocol.report taskId with baselineSnapshot := some snapshotId } else none,
        snapshot.2)
    else
      (some { protocol.report taskId with actionTaken := some "task_reset_to_pending" },
        protocol.handleRejection taskId "Consensus rejected the result" now)
  else (some (protocol.report taskId), protocol)

inductive VerificationEvent where
  | requestVerification (taskId : TaskId) (host : Host) (now : Time)
  | submitVerification (taskId : TaskId) (verifyingAgent : AgentId) (verdict : Bool)
      (evidence : List (String × Value)) (now : Time)
  | checkConsensus (taskId : TaskId) (snapshotId : String) (now : Time)
  -- Whoever else works on the ledger.
  | ledgerCall (call : SmartLedger.LedgerCall)

def step : VerificationEvent → VerificationProtocol
  | .requestVerification taskId host now => (protocol.requestVerification host taskId now).2
  | .submitVerification taskId verifyingAgent verdict evidence now =>
      protocol.submitVerification taskId verifyingAgent verdict evidence now
  | .checkConsensus taskId snapshotId now => (protocol.checkConsensus taskId snapshotId now).2
  | .ledgerCall call => { protocol with ledger := protocol.ledger.perform call }

end VerificationProtocol

end Hartos
