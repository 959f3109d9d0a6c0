import Hartos.NextTask
import Hartos.TaskCreation

/-!
A task that waits for another one's outcome. The condition stands beside a prerequisite on the
same task, and two functions read it.
-/
namespace Hartos.SmartLedger
open TaskStatus

section Evaluator
variable (ledger : SmartLedger) (task : Task)

def incompletePrerequisites : List TaskId :=
  task.prerequisites.filter fun id =>
    (ledger.getTask id).any fun prerequisite => prerequisite.status ≠ .completed

def unresolvedBlockers : List TaskId :=
  task.blockedBy.filter fun id =>
    (ledger.getTask id).any fun blocker =>
      blocker.status ≠ .completed ∧ blocker.status ≠ .skipped

def outcomeRefusal : Option String :=
  match task.context.dependsOnOutcome with
  | none => none
  | some condition =>
      if condition.taskId = "" then none
      else
        match ledger.getTask condition.taskId with
        | none => none
        | some dependency =>
            if dependency.status = .completed then
              if condition.requiredOutcome = some "failure" then
                some ("Requires " ++ condition.taskId ++ " to fail, but it succeeded")
              else none
            else if dependency.status = .failed then
              if condition.requiredOutcome = some "success" then
                some ("Requires " ++ condition.taskId ++ " to succeed, but it failed")
              else none
            else some ("Waiting for " ++ condition.taskId ++ " outcome")

def higherPrioritySiblings : List Task :=
  match task.parentTaskId with
  | none => []
  | some parentId =>
      if parentId = "" then []
      else
        match ledger.getTask parentId with
        | none => []
        | some parent =>
            ((parent.childTaskIds.filter (· ≠ task.taskId)).filterMap ledger.getTask).filter
              fun sibling => sibling.status = .pending ∧ task.priority < sibling.priority

def canTaskExecute : Bool × String :=
  let incomplete := ledger.incompletePrerequisites task
  let unresolved := ledger.unresolvedBlockers task
  if incomplete ≠ [] then
    (false, "Waiting for prerequisites: " ++ String.intercalate ", " incomplete)
  else if unresolved ≠ [] then (false, "Blocked by: " ++ String.intercalate ", " unresolved)
  else
    match ledger.outcomeRefusal task with
    | some reason => (false, reason)
    | none =>
        match ledger.higherPrioritySiblings task with
        | sibling :: _ => (false, "Higher priority sibling: " ++ sibling.taskId)
        | [] => (true, "Ready to execute")

def eligible : Bool := isCandidate task && ledger.passesChecks task

def othersAllow (condition : OutcomeCondition) : Bool :=
  isCandidate task && ledger.allPresent task.childTaskIds isResolved &&
    ledger.allPresent (task.prerequisites.filter (· ≠ condition.taskId)) isCompleted &&
    ledger.allPresent task.blockedBy isResolved

def othersPermit (condition : OutcomeCondition) : Bool :=
  ledger.allPresent (task.prerequisites.filter (· ≠ condition.taskId)) isCompleted &&
    (ledger.unresolvedBlockers task).isEmpty && (ledger.higherPrioritySiblings task).isEmpty

def conditionMet (condition : OutcomeCondition) : Bool :=
  (ledger.getTask condition.taskId).any fun dependency =>
    (decide (dependency.status = .completed) &&
        decide (condition.requiredOutcome ≠ some "failure")) ||
      (decide (dependency.status = .failed) &&
        decide (condition.requiredOutcome ≠ some "success"))

structure OutcomeHeeded (condition : OutcomeCondition) : Prop where
  next : ledger.eligible task = (ledger.conditionMet condition && ledger.othersAllow task condition)
  check : (ledger.canTaskExecute task).1 =
    (ledger.conditionMet condition && ledger.othersAllow task condition)

/-- The dependency is in the ledger, it has not FAILED under a condition that allows that, and
once it is COMPLETED the two evaluators agree on the rest. -/
structure OutcomePlain (condition : OutcomeCondition) : Prop where
  missing : ledger.getTask condition.taskId = none →
    ledger.othersAllow task condition = false ∧ ledger.othersPermit task condition = false
  failed : ∀ dependency, ledger.getTask condition.taskId = some dependency →
    dependency.status = .failed → condition.requiredOutcome ≠ some "success" →
      ledger.othersAllow task condition = false
  completed : ∀ dependency, ledger.getTask condition.taskId = some dependency →
    dependency.status = .completed → condition.requiredOutcome ≠ some "failure" →
      ledger.othersAllow task condition = ledger.othersPermit task condition

def succeeded (condition : OutcomeCondition) : Bool :=
  match ledger.getTask condition.taskId with
  | none => true
  | some dependency =>
      decide (dependency.status = .completed) && decide (condition.requiredOutcome ≠ some "failure")

end Evaluator

def KnownOutcome (condition : OutcomeCondition) : Prop :=
  condition.requiredOutcome = some "success" ∨ condition.requiredOutcome = some "failure" ∨
    condition.requiredOutcome = some "any"

section Conditioned
variable {ledger : SmartLedger} {task : Task} {condition : OutcomeCondition}

theorem allPresent_without (id : TaskId) (ids : List TaskId) (test : Status → Bool)
    (member : id ∈ ids) :
    ledger.allPresent ids test =
      (ledger.allPresent (ids.filter (· ≠ id)) test && ledger.allPresent [id] test) := by
  rw [Bool.eq_iff_iff, Bool.and_eq_true, allPresent_iff, allPresent_iff, allPresent_iff]
  constructor
  · intro all
    constructor
    · exact fun other among => all other (List.mem_of_mem_filter among)
    · exact fun other among => all other (List.mem_singleton.mp among ▸ member)
  · rintro ⟨others, own⟩ other among found present
    by_cases same : other = id
    · exact own other (List.mem_singleton.mpr same) found present
    · exact others other (List.mem_filter.mpr ⟨among, by simpa using same⟩) found present

variable (asked : task.context.dependsOnOutcome = some condition)
variable (listed : condition.taskId ∈ task.prerequisites)
include asked listed

theorem eligible_eq (known : KnownOutcome condition) :
    ledger.eligible task = (ledger.othersAllow task condition && ledger.succeeded condition) := by
  have both : (ledger.allPresent [condition.taskId] isCompleted && ledger.outcomeAllows task) =
      ledger.succeeded condition := by
    simp only [allPresent, outcomeAllows, succeeded, asked, List.all_cons, List.all_nil,
      Bool.and_true]
    cases ledger.getTask condition.taskId with
    | none => rfl
    | some dependency =>
      simp only [isCompleted]
      by_cases done : dependency.status = .completed
      · rcases known with same | same | same <;> simp [done, same]
      · simp [done]
  rw [eligible, passesChecks, othersAllow, ← both,
    allPresent_without condition.taskId task.prerequisites isCompleted listed]
  simp only [Bool.and_assoc, Bool.and_comm, Bool.and_left_comm]

omit asked listed in
theorem incompletePrerequisites_empty : ledger.incompletePrerequisites task = [] ↔
    ledger.allPresent task.prerequisites isCompleted = true := by
  rw [incompletePrerequisites, List.filter_eq_nil_iff, allPresent_iff]
  apply forall₂_congr
  intro id _
  cases ledger.getTask id with
  | none => simp
  | some found => simp [isCompleted]

theorem check_eq (named : condition.taskId ≠ "") :
    (ledger.canTaskExecute task).1 =
      (ledger.othersPermit task condition && ledger.succeeded condition) := by
  by_cases unmet : ledger.incompletePrerequisites task = []
  · have met := incompletePrerequisites_empty.mp unmet
    rw [allPresent_without condition.taskId task.prerequisites isCompleted listed,
      Bool.and_eq_true] at met
    obtain ⟨others, own⟩ := met
    have refusal : (ledger.outcomeRefusal task).isNone = ledger.succeeded condition := by
      have own' := (allPresent_iff _ _).mp own condition.taskId (List.mem_singleton.mpr rfl)
      simp only [outcomeRefusal, succeeded, asked, if_neg named]
      cases found : ledger.getTask condition.taskId with
      | none => rfl
      | some dependency =>
        have done : dependency.status = .completed := by
          simpa [isCompleted] using own' dependency found
        by_cases failing : condition.requiredOutcome = some "failure" <;> simp [done, failing]
    simp only [canTaskExecute, unmet, ne_eq, not_true_eq_false, if_false, othersPermit, others,
      Bool.true_and, ← refusal]
    cases blocked : ledger.unresolvedBlockers task with
    | cons blocker rest => simp
    | nil =>
      cases refused : ledger.outcomeRefusal task with
      | some reason => simp
      | none =>
        cases ledger.higherPrioritySiblings task <;> simp
  · have false' : (ledger.othersPermit task condition && ledger.succeeded condition) = false := by
      rw [Bool.eq_false_iff]
      intro both
      simp only [Bool.and_eq_true, othersPermit] at both
      apply unmet
      rw [incompletePrerequisites_empty,
        allPresent_without condition.taskId task.prerequisites isCompleted listed, both.1.1.1,
        Bool.true_and, allPresent_iff]
      intro id same found present
      rw [List.mem_singleton.mp same] at present
      have done := both.2
      simp only [succeeded, present, Bool.and_eq_true] at done
      exact done.1
    rw [false', canTaskExecute]
    simp only [ne_eq, unmet, not_false_eq_true, if_true]

-- What the two evaluators answer for a task with a condition, against what they should.
theorem outcomeHeeded_iff (known : KnownOutcome condition) (named : condition.taskId ≠ "") :
    OutcomeHeeded ledger task condition ↔ OutcomePlain ledger task condition := by
  have next := @eligible_eq ledger _ _ asked listed known
  have check := @check_eq ledger _ _ asked listed named
  have split : OutcomeHeeded ledger task condition ↔
      (ledger.othersAllow task condition && ledger.succeeded condition) =
          (ledger.conditionMet condition && ledger.othersAllow task condition) ∧
        (ledger.othersPermit task condition && ledger.succeeded condition) =
          (ledger.conditionMet condition && ledger.othersAllow task condition) := by
    rw [← next, ← check]
    exact ⟨fun heeded => ⟨heeded.next, heeded.check⟩, fun both => ⟨both.1, both.2⟩⟩
  have plain : OutcomePlain ledger task condition ↔
      (ledger.getTask condition.taskId = none →
          ledger.othersAllow task condition = false ∧ ledger.othersPermit task condition = false) ∧
        (∀ dependency, ledger.getTask condition.taskId = some dependency →
          dependency.status = .failed → condition.requiredOutcome ≠ some "success" →
            ledger.othersAllow task condition = false) ∧
        ∀ dependency, ledger.getTask condition.taskId = some dependency →
          dependency.status = .completed → condition.requiredOutcome ≠ some "failure" →
            ledger.othersAllow task condition = ledger.othersPermit task condition :=
    ⟨fun plain => ⟨plain.missing, plain.failed, plain.completed⟩,
      fun all => ⟨all.1, all.2.1, all.2.2⟩⟩
  rw [split, plain]
  simp only [succeeded, conditionMet]
  generalize ledger.othersAllow task condition = allow
  generalize ledger.othersPermit task condition = permit
  cases ledger.getTask condition.taskId with
  | none => cases allow <;> cases permit <;> simp
  | some dependency =>
    by_cases done : dependency.status = .completed
    · by_cases failing : condition.requiredOutcome = some "failure" <;>
        cases allow <;> cases permit <;> simp [done, failing]
    · by_cases failed : dependency.status = .failed
      · by_cases succeeding : condition.requiredOutcome = some "success" <;>
          cases allow <;> cases permit <;> simp [failed, succeeding]
      · cases allow <;> cases permit <;> simp [done, failed]

end Conditioned

theorem created_conditioned (host : Host) (ledger : SmartLedger) (taskDescription : String)
    (discovery : Discovery) (classification : Classification) (now : Time)
    (condition : OutcomeCondition) (asked : classification.outcome = some condition) :
    (ledger.addDynamicTask host taskDescription discovery classification now).1.context.dependsOnOutcome =
        some condition ∧
      condition.taskId ∈
        (ledger.addDynamicTask host taskDescription discovery classification now).1.prerequisites := by
  have settled : ∀ task, (settlePendingReason task).context = task.context ∧
      (settlePendingReason task).prerequisites = task.prerequisites := by
    intro task
    unfold settlePendingReason
    split <;> exact ⟨rfl, rfl⟩
  simp only [addDynamicTask, Classification.task, (settled _).1, (settled _).2,
    Classification.conditional, asked]
  refine ⟨trivial, ?_⟩
  split
  next member => exact member
  next => exact List.mem_append_right _ (List.mem_singleton.mpr rfl)

/-- A task made with a condition is offered as the condition asks, by both evaluators, exactly
when the ledger is plain for it. -/
theorem outcome_conditions_iff (host : Host) (start : SmartLedger) (taskDescription : String)
    (discovery : Discovery) (classification : Classification) (now : Time)
    (condition : OutcomeCondition) (asked : classification.outcome = some condition)
    (known : KnownOutcome condition) (ledger : SmartLedger) (task : Task)
    (context : task.context.dependsOnOutcome = (start.addDynamicTask host taskDescription discovery
      classification now).1.context.dependsOnOutcome)
    (prerequisites : ∀ id ∈ (start.addDynamicTask host taskDescription discovery classification
      now).1.prerequisites, id ∈ task.prerequisites) :
    OutcomeHeeded ledger task condition ↔ OutcomePlain ledger task condition := by
  obtain ⟨kept, listed⟩ := created_conditioned host start taskDescription discovery classification
    now condition asked
  have named : condition.taskId ≠ "" := by
    simpa using (Option.filter_eq_some_iff.mp asked).2
  exact outcomeHeeded_iff (context.trans kept) (prerequisites _ listed) known named

section Samples

def onFailure : Classification := { condition := some { taskId := "a", requiredOutcome := some "failure" } }

def fallbackTask : Task :=
  ((sampleLedger [sampleTask "a" .pending] .accepted).addDynamicTask sampleHost "retry" {} onFailure
    0).1

theorem outcome_conditions_retry :
    OutcomeHeeded (sampleLedger [sampleTask "a" .completed, fallbackTask] .accepted) fallbackTask
        { taskId := "a", requiredOutcome := some "failure" } ↔
      OutcomePlain (sampleLedger [sampleTask "a" .completed, fallbackTask] .accepted) fallbackTask
        { taskId := "a", requiredOutcome := some "failure" } :=
  outcome_conditions_iff sampleHost (sampleLedger [sampleTask "a" .pending] .accepted) "retry" {}
    onFailure 0 { taskId := "a", requiredOutcome := some "failure" } (by decide)
    (Or.inr (Or.inl rfl)) (sampleLedger [sampleTask "a" .completed, fallbackTask] .accepted) fallbackTask
    rfl (fun _ member => member)

/-- Once 'a' is FAILED, neither evaluator ever offers it. -/
theorem failure_condition_never_met :
    ¬ OutcomeHeeded (sampleLedger [sampleTask "a" .failed, fallbackTask] .accepted) fallbackTask
      { taskId := "a", requiredOutcome := some "failure" } := by
  intro heeded
  have next := heeded.next
  revert next
  decide +kernel

end Samples
end Hartos.SmartLedger
