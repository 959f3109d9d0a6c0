import Mathlib.Logic.Basic

/-!
The task lifecycle of the agent ledger: the fifteen statuses, their classes and
the one transition table every reader of the ledger asks.
-/
namespace Hartos.TaskStatus

inductive TaskType where
  | preAssigned | autonomous | userRequested | intermediate
  deriving DecidableEq

inductive ExecutionMode where
  | parallel | sequential
  deriving DecidableEq

inductive BlockedReason where
  | dependency | inputRequired | approvalRequired | resourceUnavailable
  | rateLimited | externalService | manualBlock
  deriving DecidableEq

/-- `blocked_reason` holds a string; the enumeration supplies its usual values. -/
def BlockedReason.value : BlockedReason → String
  | .dependency => "dependency"
  | .inputRequired => "input_required"
  | .approvalRequired => "approval_required"
  | .resourceUnavailable => "resource_unavailable"
  | .rateLimited => "rate_limited"
  | .externalService => "external_service"
  | .manualBlock => "manual_block"

inductive Status where
  | pending | deferred
  | inProgress | delegated
  | paused | userStopped | blocked
  | completed | failed | cancelled | terminated | skipped | notApplicable | rolledBack
  | resuming
  deriving DecidableEq

def Status.value : Status → String
  | .pending => "pending"
  | .deferred => "deferred"
  | .inProgress => "in_progress"
  | .delegated => "delegated"
  | .paused => "paused"
  | .userStopped => "user_stopped"
  | .blocked => "blocked"
  | .completed => "completed"
  | .failed => "failed"
  | .cancelled => "cancelled"
  | .terminated => "terminated"
  | .skipped => "skipped"
  | .notApplicable => "not_applicable"
  | .rolledBack => "rolled_back"
  | .resuming => "resuming"

def isTerminalState : Status → Bool
  | .completed | .failed | .cancelled | .terminated | .skipped | .notApplicable
  | .rolledBack => true
  | _ => false

def isActiveState : Status → Bool
  | .inProgress | .resuming | .delegated => true
  | _ => false

def isPausedState : Status → Bool
  | .paused | .userStopped | .blocked => true
  | _ => false

def isResolved : Status → Bool
  | .completed | .skipped | .notApplicable => true
  | _ => false

inductive TransitionRefusal where
  | terminalState (fromStatus newStatus : Status)
  | invalidTransition (fromStatus newStatus : Status)
  deriving DecidableEq

def validTransitions : Status → List Status
  | .pending =>
      [.inProgress, .paused, .cancelled, .skipped, .notApplicable, .deferred, .delegated]
  | .deferred => [.pending, .inProgress, .cancelled, .skipped, .notApplicable]
  | .inProgress =>
      [.completed, .failed, .paused, .userStopped, .blocked, .terminated, .notApplicable,
        .delegated, .deferred]
  | .delegated => [.completed, .failed, .inProgress, .cancelled, .blocked]
  | .paused => [.resuming, .cancelled, .terminated, .notApplicable, .skipped, .deferred]
  | .userStopped => [.resuming, .cancelled, .terminated, .notApplicable, .skipped, .deferred]
  | .blocked => [.pending, .resuming, .failed, .cancelled, .notApplicable, .deferred]
  | .resuming => [.inProgress, .paused, .failed]
  | _ => []

def transitionRefusalBetween (fromStatus newStatus : Status) : Option TransitionRefusal :=
  if fromStatus = .completed ∧ newStatus = .rolledBack then none
  -- FAILED may still recover to a finished state, never to active work.
  else if fromStatus = .failed ∧ (newStatus = .completed ∨ newStatus = .terminated) then none
  else if isTerminalState fromStatus then some (.terminalState fromStatus newStatus)
  else if newStatus ∈ validTransitions fromStatus then none
  else some (.invalidTransition fromStatus newStatus)

-- The table lets a finished task move in exactly three ways.
theorem terminal_moves (fromStatus newStatus : Status) (terminal : isTerminalState fromStatus = true)
    (allowed : transitionRefusalBetween fromStatus newStatus = none) :
    (fromStatus = .completed ∧ newStatus = .rolledBack) ∨
      (fromStatus = .failed ∧ (newStatus = .completed ∨ newStatus = .terminated)) := by
  by_cases rolled : fromStatus = .completed ∧ newStatus = .rolledBack
  · exact Or.inl rolled
  · by_cases recovered : fromStatus = .failed ∧ (newStatus = .completed ∨ newStatus = .terminated)
    · exact Or.inr recovered
    · rw [transitionRefusalBetween, if_neg rolled, if_neg recovered, if_pos terminal] at allowed
      cases allowed

theorem completed_moves (newStatus : Status)
    (allowed : transitionRefusalBetween .completed newStatus = none) : newStatus = .rolledBack := by
  rcases terminal_moves .completed newStatus rfl allowed with ⟨_, rolled⟩ | ⟨failed, _⟩
  · exact rolled
  · cases failed

end Hartos.TaskStatus
