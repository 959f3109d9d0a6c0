import Hartos.DispatchSafety

/-!
What `get_next_executable_task` picks. Ids that name no task of the ledger hold nothing up, and
a task that was deferred or delegated is left to whoever brings it back.
-/
namespace Hartos.SmartLedger
open TaskStatus

section Definitions
variable (ledger : SmartLedger) (task : Task)

structure Unhindered : Prop where
  children : ∀ id ∈ task.childTaskIds, ∀ child, ledger.getTask id = some child →
    isResolved child.status = true
  prerequisites : ∀ id ∈ task.prerequisites, ∀ prerequisite,
    ledger.getTask id = some prerequisite → prerequisite.status = .completed
  blockers : ∀ id ∈ task.blockedBy, ∀ blocker, ledger.getTask id = some blocker →
    isResolved blocker.status = true

def OutcomeMet : Prop :=
  ∀ condition, task.context.dependsOnOutcome = some condition →
    ∀ dependency, ledger.getTask condition.taskId = some dependency →
      (dependency.status = .completed ∧
          (condition.requiredOutcome = some "success" ∨ condition.requiredOutcome = some "any")) ∨
        (dependency.status = .failed ∧
          (condition.requiredOutcome = some "failure" ∨ condition.requiredOutcome = some "any"))

def OutcomeOpen : Prop :=
  ∀ condition, task.context.dependsOnOutcome = some condition →
    ∀ dependency, ledger.getTask condition.taskId = some dependency →
      (condition.requiredOutcome = some "success" → dependency.status = .completed) ∧
        (condition.requiredOutcome = some "failure" → dependency.status ≠ .completed)

def setAside : Prop := task.status = .deferred ∨ task.status = .delegated

structure Startable : Prop where
  allowed : task.transitionRefusal .inProgress = none
  present : ¬ setAside task
  unhindered : Unhindered ledger task
  outcome : OutcomeMet ledger task

structure Offerable : Prop where
  allowed : task.status ≠ .inProgress → task.status ≠ .paused → task.status ≠ .userStopped →
    task.transitionRefusal .inProgress = none
  present : ¬ setAside task
  unhindered : Unhindered ledger task
  outcome : OutcomeOpen ledger task

end Definitions

section Checks
variable {ledger : SmartLedger} {task : Task}

theorem allPresent_iff (ids : List TaskId) (test : Status → Bool) :
    ledger.allPresent ids test = true ↔
      ∀ id ∈ ids, ∀ found, ledger.getTask id = some found → test found.status = true := by
  rw [allPresent, List.all_eq_true]
  apply forall₂_congr
  intro id _
  cases ledger.getTask id with
  | none => simp
  | some found => exact ⟨fun met _ same => Option.some.inj same ▸ met, fun met => met found rfl⟩

theorem unhindered_iff : Unhindered ledger task ↔
    ledger.allPresent task.childTaskIds isResolved = true ∧
      ledger.allPresent task.prerequisites isCompleted = true ∧
        ledger.allPresent task.blockedBy isResolved = true := by
  simp only [allPresent_iff, isCompleted, decide_eq_true_eq]
  exact ⟨fun free => ⟨free.children, free.prerequisites, free.blockers⟩,
    fun all => ⟨all.1, all.2.1, all.2.2⟩⟩

theorem outcomeAllows_of_met (met : OutcomeMet ledger task) : ledger.outcomeAllows task = true := by
  unfold outcomeAllows
  cases asked : task.context.dependsOnOutcome with
  | none => rfl
  | some condition =>
    cases found : ledger.getTask condition.taskId with
    | none => simp only [found]
    | some dependency =>
      simp only [found, Bool.or_eq_true, decide_eq_true_eq]
      rcases met condition asked dependency found with
        ⟨done, success | any⟩ | ⟨failed, failure | any⟩
      · exact Or.inr (by rw [if_pos done, success])
      · exact Or.inl any
      · exact Or.inr (by rw [if_neg (by simp [failed]), failure])
      · exact Or.inl any

theorem outcomeOpen_of_allows (allows : ledger.outcomeAllows task = true) :
    OutcomeOpen ledger task := by
  intro condition asked dependency found
  simp only [outcomeAllows, asked, found, Bool.or_eq_true, decide_eq_true_eq] at allows
  constructor
  · intro success
    by_contra unfinished
    rw [if_neg unfinished, success] at allows
    rcases allows with other | other <;> exact absurd other (by decide)
  · intro failure done
    rw [if_pos done, failure] at allows
    rcases allows with other | other <;> exact absurd other (by decide)

theorem isCandidate_of_startable (startable : Startable ledger task) : isCandidate task = true := by
  have allowed := startable.allowed
  have present := startable.present
  simp only [Task.transitionRefusal, setAside, isCandidate] at allowed present ⊢
  revert allowed present
  cases task.status <;> decide

theorem passesChecks_of_startable (startable : Startable ledger task) :
    ledger.passesChecks task = true := by
  obtain ⟨children, prerequisites, blockers⟩ := unhindered_iff.mp startable.unhindered
  simp only [passesChecks, Bool.and_eq_true]
  exact ⟨⟨⟨children, prerequisites⟩, outcomeAllows_of_met startable.outcome⟩, blockers⟩

theorem offerable_of_checks (candidate : isCandidate task = true)
    (checks : ledger.passesChecks task = true) : Offerable ledger task := by
  simp only [passesChecks, Bool.and_eq_true] at checks
  obtain ⟨⟨⟨children, prerequisites⟩, outcome⟩, blockers⟩ := checks
  constructor
  · simp only [isCandidate, Task.transitionRefusal] at candidate ⊢
    revert candidate
    cases task.status <;> decide
  · simp only [isCandidate, setAside] at candidate ⊢
    revert candidate
    cases task.status <;> decide
  · exact unhindered_iff.mpr ⟨children, prerequisites, blockers⟩
  · exact outcomeOpen_of_allows outcome

end Checks

theorem byPriority_sorted (tasks : List Task) :
    (byPriority tasks).Pairwise fun first second => second.priority ≤ first.priority :=
  List.pairwise_insertionSort (fun first second : Task => second.priority ≤ first.priority) tasks

-- The first of a sorted list that passes is before every other that does.
theorem find_first {Item : Type} {before : Item → Item → Prop} (test : Item → Bool)
    (items : List Item) (sorted : items.Pairwise before) (first other : Item)
    (found : items.find? test = some first) (member : other ∈ items) (passes : test other = true) :
    first = other ∨ before first other := by
  induction items with
  | nil => cases member
  | cons item rest ih =>
    obtain ⟨ahead, later⟩ := List.pairwise_cons.mp sorted
    cases tested : test item with
    | true =>
      rw [List.find?_cons_of_pos tested] at found
      cases found
      rcases List.mem_cons.mp member with rfl | member
      · exact Or.inl rfl
      · exact Or.inr (ahead other member)
    | false =>
      rw [List.find?_cons_of_neg (by simp [tested])] at found
      rcases List.mem_cons.mp member with rfl | member
      · rw [tested] at passes
        cases passes
      · exact ih later found member

/-- The task picked is offerable, and no startable one is passed over for it or for nothing. -/
theorem next_task_best (ledger : SmartLedger) :
    (∀ task, ledger.getNextExecutableTask = some task →
      task ∈ ledger.tasks.rows ∧ Offerable ledger task ∧
        ∀ other ∈ ledger.tasks.rows, Startable ledger other → other.priority ≤ task.priority) ∧
      (ledger.getNextExecutableTask = none →
        ∀ other ∈ ledger.tasks.rows, ¬ Startable ledger other) := by
  have listed : ∀ other ∈ ledger.tasks.rows, Startable ledger other →
      other ∈ byPriority (ledger.tasks.rows.filter isCandidate) := by
    intro other member startable
    rw [byPriority, List.mem_insertionSort]
    exact List.mem_filter.mpr ⟨member, isCandidate_of_startable startable⟩
  constructor
  · intro task next
    obtain ⟨member, candidate, checks⟩ :=
      ParallelDispatch.getNextExecutableTask_some ledger task next
    refine ⟨member, offerable_of_checks candidate checks, fun other among startable => ?_⟩
    rcases find_first ledger.passesChecks _ (byPriority_sorted _) task other next
        (listed other among startable) (passesChecks_of_startable startable) with rfl | ahead
    · exact le_rfl
    · exact ahead
  · intro none other member startable
    have passed := List.find?_eq_none.mp none other (listed other member startable)
    exact passed (passesChecks_of_startable startable)

/-- A task its user stopped is picked, and a deferred one that could start is not. -/
theorem next_task_unstartable :
    ((sampleLedger [sampleTask "a" .userStopped] .accepted).getNextExecutableTask =
        some (sampleTask "a" .userStopped) ∧
      (sampleTask "a" .userStopped).transitionRefusal .inProgress ≠ none) ∧
    (sampleLedger [sampleTask "b" .deferred] .accepted).getNextExecutableTask = none ∧
      (sampleTask "b" .deferred).transitionRefusal .inProgress = none ∧
      (sampleTask "b" .deferred).prerequisites = [] ∧ (sampleTask "b" .deferred).blockedBy = [] ∧
      (sampleTask "b" .deferred).childTaskIds = [] := by
  decide

end Hartos.SmartLedger
