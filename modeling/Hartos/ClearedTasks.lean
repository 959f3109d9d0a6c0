import Hartos.TaskCreation
import Hartos.TaskGraph

/-!
What clearing the completed tasks does to those that are left. Their prerequisite
ids dangle from then on, and the readers take a dangling id differently: as not met,
as met, as a task the graph never reaches.
-/
namespace Hartos.SmartLedger
open TaskStatus KeyedTable

def prerequisitesMet (ledger : SmartLedger) (task : Task) : Bool :=
  task.prerequisites.all fun id =>
    decide ((ledger.getTask id).elim Status.pending Task.status = .completed)

def getReadyTasks (ledger : SmartLedger) : List Task :=
  byPriority (ledger.tasks.rows.filter fun task =>
    decide (task.status = .pending) && ledger.prerequisitesMet task)

/-- What `get_next_executable_task` may return. -/
def Eligible (ledger : SmartLedger) (task : Task) : Prop :=
  task ∈ ledger.tasks.rows ∧ isCandidate task = true ∧ ledger.passesChecks task = true

def Listed (order : SetOrder) (ledger : SmartLedger) (taskId : TaskId) : Prop :=
  ∃ sorted, topologicalSort order ledger = some (.sorted sorted) ∧ taskId ∈ sorted

def remaining (ledger : SmartLedger) : List TaskId :=
  ledger.tasks.keys.filter (· ∉ ledger.completedIds)

variable (order : SetOrder) (ledger : SmartLedger) (sorted : List TaskId) (task : Task)
  (taskId : TaskId)

theorem mem_completedIds :
    taskId ∈ ledger.completedIds ↔
      ∃ task, ledger.getTask taskId = some task ∧ task.status = .completed := by
  constructor
  · intro member
    obtain ⟨task, inside, rfl⟩ := List.mem_map.mp member
    obtain ⟨among, completed⟩ := List.mem_filter.mp inside
    exact ⟨task, Table.mem_get? ledger.tasks task among, by simpa using completed⟩
  · rintro ⟨task, found, completed⟩
    have named := ledger.getTask_taskId taskId task found
    have among : task ∈ ledger.tasks.rows := Table.get?_mem ledger.tasks taskId task found
    exact named ▸ List.mem_map_of_mem (List.mem_filter.mpr ⟨among, by simpa using completed⟩)

theorem getTask_cleared :
    ledger.clearCompletedTasks.getTask taskId =
      if taskId ∈ ledger.completedIds then none else ledger.getTask taskId :=
  Table.get?_eraseAll ledger.completedIds ledger.tasks taskId

theorem keys_cleared : ledger.clearCompletedTasks.tasks.keys = ledger.remaining :=
  Table.keys_eraseAll ledger.completedIds ledger.tasks

theorem mem_rows_cleared :
    task ∈ ledger.clearCompletedTasks.tasks.rows ↔
      task ∈ ledger.tasks.rows ∧ task.status ≠ .completed := by
  have left := ledger.getTask_cleared task.taskId
  rw [Table.mem_rows, Table.mem_rows]
  change ledger.clearCompletedTasks.getTask task.taskId = some task ↔
    ledger.getTask task.taskId = some task ∧ _
  rw [left]
  constructor
  · intro found
    split at found
    · cases found
    · next gone =>
        refine ⟨found, fun completed => gone ?_⟩
        exact (ledger.mem_completedIds task.taskId).mpr ⟨task, found, completed⟩
  · rintro ⟨found, unfinished⟩
    rw [if_neg, found]
    intro gone
    obtain ⟨other, there, completed⟩ := (ledger.mem_completedIds task.taskId).mp gone
    rw [found] at there
    cases there
    exact unfinished completed

theorem pending_stays (pending : task.status = .pending) :
    task ∈ ledger.clearCompletedTasks.tasks.rows ↔ task ∈ ledger.tasks.rows := by
  rw [mem_rows_cleared, pending]
  simp

theorem mem_getReadyTasks :
    task ∈ ledger.getReadyTasks ↔ task ∈ ledger.tasks.rows ∧ task.status = .pending ∧
      ∀ id ∈ task.prerequisites, id ∈ ledger.completedIds := by
  have met (id : TaskId) : (ledger.getTask id).elim Status.pending Task.status = .completed ↔
      id ∈ ledger.completedIds := by
    rw [mem_completedIds]
    cases ledger.getTask id <;> simp
  unfold getReadyTasks byPriority prerequisitesMet
  simp [met]

/-- Nothing completed is left, so only a task without prerequisites is ready. -/
theorem completedIds_cleared : taskId ∉ ledger.clearCompletedTasks.completedIds := by
  rw [mem_completedIds, getTask_cleared]
  rintro ⟨task, found, completed⟩
  split at found
  · cases found
  · next gone => exact gone ((ledger.mem_completedIds taskId).mpr ⟨task, found, completed⟩)

theorem ready_kept_iff :
    (∀ task, task.status = .pending →
      (task ∈ ledger.getReadyTasks ↔ task ∈ ledger.clearCompletedTasks.getReadyTasks)) ↔
    ∀ task ∈ ledger.tasks.rows, task.status = .pending →
      (∀ id ∈ task.prerequisites, id ∈ ledger.completedIds) → task.prerequisites = [] := by
  constructor
  · intro same task member pending met
    have offered := (ledger.mem_getReadyTasks task).mpr ⟨member, pending, met⟩
    have after := (same task pending).mp offered
    have none := ((mem_getReadyTasks _ task).mp after).2.2
    exact List.eq_nil_iff_forall_not_mem.mpr fun id listed =>
      ledger.completedIds_cleared id (none id listed)
  · intro free task pending
    rw [mem_getReadyTasks, mem_getReadyTasks, ledger.pending_stays task pending]
    constructor
    · rintro ⟨member, _, met⟩
      have none := free task member pending met
      exact ⟨member, pending, by simp [none]⟩
    · rintro ⟨member, _, met⟩
      refine ⟨member, pending, fun id listed => ?_⟩
      exact absurd (met id listed) (ledger.completedIds_cleared id)

def otherChecks (ledger : SmartLedger) (task : Task) : Bool :=
  ledger.allPresent task.childTaskIds isResolved &&
    ledger.allPresent task.prerequisites isCompleted &&
    ledger.allPresent task.blockedBy isResolved

/-- A check that a completed task passes does not miss it. -/
theorem allPresent_cleared (ids : List TaskId) (test : Status → Bool)
    (passes : test .completed = true) :
    ledger.clearCompletedTasks.allPresent ids test = ledger.allPresent ids test := by
  unfold allPresent
  congr 1
  funext id
  rw [getTask_cleared]
  by_cases gone : id ∈ ledger.completedIds
  · obtain ⟨task, found, completed⟩ := (ledger.mem_completedIds id).mp gone
    simp [gone, found, completed, passes]
  · rw [if_neg gone]

def asksSuccess (condition : OutcomeCondition) : Prop :=
  condition.requiredOutcome = some "any" ∨ condition.requiredOutcome = some "success"

theorem outcomeAllows_cleared :
    ledger.clearCompletedTasks.outcomeAllows task = ledger.outcomeAllows task ↔
      ∀ condition, task.context.dependsOnOutcome = some condition →
        condition.taskId ∈ ledger.completedIds → asksSuccess condition := by
  unfold outcomeAllows
  cases task.context.dependsOnOutcome with
  | none => simp
  | some condition =>
    simp only [getTask_cleared]
    by_cases gone : condition.taskId ∈ ledger.completedIds
    · obtain ⟨dependency, found, completed⟩ := (ledger.mem_completedIds _).mp gone
      simp [gone, found, completed, asksSuccess]
    · simp [gone]

theorem eligible_kept_iff :
    (∀ task, task.status = .pending →
      (ledger.Eligible task ↔ ledger.clearCompletedTasks.Eligible task)) ↔
    ∀ task ∈ ledger.tasks.rows, task.status = .pending → ledger.otherChecks task = true →
      ∀ condition, task.context.dependsOnOutcome = some condition →
        condition.taskId ∈ ledger.completedIds → asksSuccess condition := by
  have checks (current : SmartLedger) (task : Task) : current.passesChecks task =
      (current.otherChecks task && current.outcomeAllows task) := by
    unfold passesChecks otherChecks
    cases current.allPresent task.childTaskIds isResolved <;>
      cases current.allPresent task.prerequisites isCompleted <;>
      cases current.outcomeAllows task <;> simp
  have others (task : Task) :
      ledger.clearCompletedTasks.otherChecks task = ledger.otherChecks task := by
    simp only [otherChecks, ledger.allPresent_cleared _ isResolved rfl,
      ledger.allPresent_cleared _ isCompleted rfl]
  constructor
  · intro same task member pending passes
    apply (ledger.outcomeAllows_cleared task).mp
    have agreed := same task pending
    simp only [Eligible, ledger.pending_stays task pending, checks, others, passes, member,
      Bool.true_and, true_and] at agreed
    have candidate : isCandidate task = true := by simp [isCandidate, pending, isTerminalState]
    simpa [candidate] using agreed.symm
  · intro free task pending
    unfold Eligible
    rw [ledger.pending_stays task pending, checks, checks, others]
    apply and_congr_right
    intro member
    apply and_congr_right
    intro _
    cases passes : ledger.otherChecks task with
    | false => simp
    | true =>
      rw [(ledger.outcomeAllows_cleared task).mpr (free task member pending passes)]

def FreeBelow (ledger : SmartLedger) (taskId : TaskId) : Prop :=
  ∀ earlier, Relation.TransGen ledger.Needs earlier taskId → earlier ∉ ledger.completedIds

theorem listed_iff : Listed order ledger taskId ↔ ledger.AcyclicTasks ∧ ledger.Grounded taskId := by
  by_cases acyclic : ledger.AcyclicTasks
  · obtain ⟨sorted, found, _, _, members⟩ := ledger.topologicalSort_acyclic order acyclic
    have listed : Listed order ledger taskId ↔ taskId ∈ sorted := by
      constructor
      · rintro ⟨other, found', member⟩
        rw [found] at found'
        cases found'
        exact member
      · exact fun member => ⟨sorted, found, member⟩
    rw [listed, members, sortable_iff order ledger acyclic]
    simp [acyclic]
  · constructor
    · rintro ⟨sorted, found, _⟩
      apply absurd _ acyclic
      apply (detectCycles_none order ledger).mp
      unfold topologicalSort at found
      split at found
      · assumption
      · cases found
      · cases found
    · exact fun both => absurd both.1 acyclic

theorem needs_cleared (earlier later : TaskId) :
    ledger.clearCompletedTasks.Needs earlier later ↔
      ledger.Needs earlier later ∧ later ∉ ledger.completedIds := by
  unfold Needs prerequisitesOf
  rw [getTask_cleared]
  by_cases gone : later ∈ ledger.completedIds <;> simp [gone]

theorem mem_keys_cleared :
    taskId ∈ ledger.clearCompletedTasks.tasks.keys ↔
      taskId ∈ ledger.tasks.keys ∧ taskId ∉ ledger.completedIds := by
  rw [keys_cleared, remaining, List.mem_filter]
  simp

theorem grounded_cleared :
    ledger.clearCompletedTasks.Grounded taskId ↔
      ledger.Grounded taskId ∧ taskId ∉ ledger.completedIds ∧ ledger.FreeBelow taskId := by
  constructor
  · rintro ⟨member, below⟩
    have kept := (ledger.mem_keys_cleared taskId).mp member
    -- Walking down from the task, each id met is a task that stays.
    have walked (earlier : TaskId) (path : Relation.TransGen ledger.Needs earlier taskId) :
        Relation.TransGen ledger.clearCompletedTasks.Needs earlier taskId := by
      induction path using Relation.TransGen.head_induction_on with
      | single needed => exact .single ((ledger.needs_cleared _ _).mpr ⟨needed, kept.2⟩)
      | head needed _ ih =>
        have stays := ((ledger.mem_keys_cleared _).mp (below _ ih)).2
        exact .head ((ledger.needs_cleared _ _).mpr ⟨needed, stays⟩) ih
    have inside (earlier : TaskId) (path : Relation.TransGen ledger.Needs earlier taskId) :=
      (ledger.mem_keys_cleared earlier).mp (below earlier (walked earlier path))
    exact ⟨⟨kept.1, fun earlier path => (inside earlier path).1⟩, kept.2,
      fun earlier path => (inside earlier path).2⟩
  · rintro ⟨⟨member, below⟩, unfinished, free⟩
    constructor
    · exact (ledger.mem_keys_cleared taskId).mpr ⟨member, unfinished⟩
    · intro earlier path
      have edges : ledger.clearCompletedTasks.Needs ≤ ledger.Needs :=
        fun first second needed => ((ledger.needs_cleared first second).mp needed).1
      have path' := Relation.TransGen.mono edges earlier taskId path
      exact (ledger.mem_keys_cleared earlier).mpr ⟨below earlier path', free earlier path'⟩

def OpenPrerequisite (ledger : SmartLedger) (earlier later : TaskId) : Prop :=
  ledger.Prerequisite earlier later ∧ earlier ∉ ledger.completedIds ∧ later ∉ ledger.completedIds

theorem prerequisite_cleared :
    ledger.clearCompletedTasks.Prerequisite = ledger.OpenPrerequisite := by
  funext earlier later
  apply propext
  have needs := ledger.needs_cleared earlier later
  unfold Needs at needs
  unfold OpenPrerequisite Prerequisite
  rw [mem_keys_cleared, mem_keys_cleared, needs]
  constructor
  · rintro ⟨⟨first, open1⟩, ⟨second, open2⟩, needed, _⟩
    exact ⟨⟨first, second, needed⟩, open1, open2⟩
  · rintro ⟨⟨first, second, needed⟩, open1, open2⟩
    exact ⟨⟨first, open1⟩, ⟨second, open2⟩, needed, open2⟩

def OpenCycle (ledger : SmartLedger) : Prop :=
  ∃ taskId, Relation.TransGen ledger.OpenPrerequisite taskId taskId

theorem acyclic_cleared_iff : ledger.clearCompletedTasks.AcyclicTasks ↔ ¬ ledger.OpenCycle := by
  unfold AcyclicTasks OpenCycle
  rw [prerequisite_cleared, not_exists]

theorem acyclic_cleared (acyclic : ledger.AcyclicTasks) :
    ledger.clearCompletedTasks.AcyclicTasks := by
  rw [acyclic_cleared_iff]
  rintro ⟨taskId, cycle⟩
  have edges : ledger.OpenPrerequisite ≤ ledger.Prerequisite := fun _ _ both => both.1
  exact acyclic taskId (Relation.TransGen.mono edges taskId taskId cycle)

def NoneCompletedBelow (ledger : SmartLedger) : Prop :=
  ∀ task ∈ ledger.tasks.rows, task.status = .pending → ledger.Grounded task.taskId →
    ledger.FreeBelow task.taskId

/-- Of a cyclic ledger nothing is listed, so nothing may be listed once it is cleared:
a cycle is open, or each task that waits needs a completed or a missing one. -/
def StaysUnlisted (ledger : SmartLedger) : Prop :=
  ledger.OpenCycle ∨ ∀ task ∈ ledger.tasks.rows, task.status = .pending →
    ledger.Grounded task.taskId → ¬ ledger.FreeBelow task.taskId

theorem pending_unfinished (member : task ∈ ledger.tasks.rows) (pending : task.status = .pending) :
    task.taskId ∉ ledger.completedIds := by
  intro gone
  obtain ⟨other, found, completed⟩ := (ledger.mem_completedIds task.taskId).mp gone
  have found' : ledger.getTask task.taskId = some task := Table.mem_get? ledger.tasks task member
  rw [found'] at found
  cases found
  rw [pending] at completed
  cases completed

theorem listed_kept_iff (order order' : SetOrder) (ledger : SmartLedger) :
    (∀ task ∈ ledger.tasks.rows, task.status = .pending →
      (Listed order ledger task.taskId ↔
        Listed order' ledger.clearCompletedTasks task.taskId)) ↔
    (ledger.AcyclicTasks → ledger.NoneCompletedBelow) ∧
      (¬ ledger.AcyclicTasks → ledger.StaysUnlisted) := by
  simp only [listed_iff]
  by_cases acyclic : ledger.AcyclicTasks
  · have cleared := ledger.acyclic_cleared acyclic
    simp only [acyclic, cleared, true_and, forall_const, not_true_eq_false, IsEmpty.forall_iff,
      and_true]
    apply forall_congr'
    intro task
    apply forall_congr'
    intro member
    apply forall_congr'
    intro pending
    have unfinished := ledger.pending_unfinished task member pending
    rw [grounded_cleared]
    constructor
    · intro same grounded
      exact (same.mp grounded).2.2
    · intro free
      exact ⟨fun grounded => ⟨grounded, unfinished, free grounded⟩, fun all => all.1⟩
  · simp only [acyclic, false_and, false_iff, not_and, not_false_eq_true, true_implies,
      IsEmpty.forall_iff, true_and, acyclic_cleared_iff, grounded_cleared]
    constructor
    · intro unlisted
      by_cases cyclic : ledger.OpenCycle
      · exact .inl cyclic
      · exact .inr fun task member pending grounded =>
          unlisted task member pending cyclic grounded
            (ledger.pending_unfinished task member pending)
    · rintro (cyclic | needy) task member pending acyclic' grounded _
      · exact absurd cyclic acyclic'
      · exact needy task member pending grounded

theorem ordered_filter {prereqs : TaskId → List TaskId} (keep : TaskId → Bool)
    (sorted : List TaskId) (ordered : KahnQueue.Ordered prereqs sorted) (before : List TaskId)
    (taskId : TaskId) (after : List TaskId)
    (split : sorted.filter keep = before ++ taskId :: after) (earlier : TaskId)
    (needed : earlier ∈ prereqs taskId) (kept : keep earlier = true) : earlier ∈ before := by
  obtain ⟨front, back, whole, first, second⟩ := List.filter_eq_append_iff.mp split
  obtain ⟨gap, rest, parts, dropped, _, _⟩ := List.filter_eq_cons_iff.mp second
  have split' : sorted = (front ++ gap) ++ taskId :: rest := by simp [whole, parts]
  rw [← first, List.mem_filter]
  rcases List.mem_append.mp (ordered _ taskId rest split' earlier needed) with inside | skipped
  · exact ⟨inside, kept⟩
  · exact absurd kept (dropped earlier skipped)

section

variable (found : topologicalSort order ledger = some (.sorted sorted))
include found

theorem listed_order : KahnQueue.Ordered (ledger.reverseAdjacency order) sorted := by
  have acyclic : ledger.AcyclicTasks := by
    apply (detectCycles_none order ledger).mp
    unfold topologicalSort at found
    split at found
    · assumption
    · cases found
    · cases found
  obtain ⟨other, found', _, ordered, _⟩ := ledger.topologicalSort_acyclic order acyclic
  rw [found] at found'
  cases found'
  exact ordered

theorem compatible_before :
    ledger.clearCompletedTasks.AfterPrerequisites
      (sorted.filter (· ∈ ledger.clearCompletedTasks.tasks.keys)) := by
  intro before taskId after split earlier needed present
  have needed' := ((ledger.needs_cleared earlier taskId).mp needed).1
  exact ordered_filter _ sorted (listed_order order ledger sorted found) before taskId after split
    earlier ((order.mem_list _ _).mpr needed') (by simpa using present)

theorem compatible_after : ledger.AfterPrerequisites sorted := by
  intro before taskId after split earlier needed _
  exact listed_order order ledger sorted found before taskId after split earlier
    ((order.mem_list _ _).mpr needed)

end

structure KeepsReadiness (order order' : SetOrder) (ledger : SmartLedger) : Prop where
  ready : ∀ task, task.status = .pending →
    (task ∈ ledger.getReadyTasks ↔ task ∈ ledger.clearCompletedTasks.getReadyTasks)
  eligible : ∀ task, task.status = .pending →
    (ledger.Eligible task ↔ ledger.clearCompletedTasks.Eligible task)
  listed : ∀ task ∈ ledger.tasks.rows, task.status = .pending →
    (Listed order ledger task.taskId ↔ Listed order' ledger.clearCompletedTasks task.taskId)
  before : ∀ sorted, topologicalSort order ledger = some (.sorted sorted) →
    ledger.clearCompletedTasks.AfterPrerequisites
      (sorted.filter (· ∈ ledger.clearCompletedTasks.tasks.keys))
  after : ∀ sorted, topologicalSort order' ledger.clearCompletedTasks = some (.sorted sorted) →
    ledger.clearCompletedTasks.AfterPrerequisites sorted

structure NothingMissed (ledger : SmartLedger) : Prop where
  ready : ∀ task ∈ ledger.tasks.rows, task.status = .pending →
    (∀ id ∈ task.prerequisites, id ∈ ledger.completedIds) → task.prerequisites = []
  eligible : ∀ task ∈ ledger.tasks.rows, task.status = .pending →
    ledger.otherChecks task = true →
      ∀ condition, task.context.dependsOnOutcome = some condition →
        condition.taskId ∈ ledger.completedIds → asksSuccess condition
  acyclic : ledger.AcyclicTasks → ledger.NoneCompletedBelow
  cyclic : ¬ ledger.AcyclicTasks → ledger.StaysUnlisted

theorem keeps_readiness_iff (order order' : SetOrder) (ledger : SmartLedger) :
    KeepsReadiness order order' ledger ↔ ledger.NothingMissed := by
  constructor
  · intro keeps
    have listed := (ledger.listed_kept_iff order order').mp keeps.listed
    exact ⟨ledger.ready_kept_iff.mp keeps.ready, ledger.eligible_kept_iff.mp keeps.eligible,
      listed.1, listed.2⟩
  · intro missed
    exact ⟨ledger.ready_kept_iff.mpr missed.ready, ledger.eligible_kept_iff.mpr missed.eligible,
      (ledger.listed_kept_iff order order').mpr ⟨missed.acyclic, missed.cyclic⟩,
      ledger.compatible_before order, compatible_after order' ledger.clearCompletedTasks⟩

def halfDoneTasks : List Task :=
  [{ Task.create "first" "work" .autonomous 0 with status := .completed },
    { Task.create "second" "work" .autonomous 0 with prerequisites := ["first"] }]

def halfDoneLedger : SmartLedger :=
  { orphanedLedger with
    tasks := halfDoneTasks.foldl Table.set (Table.empty Task.taskId)
    taskOrder := ["first", "second"] }

/-- The task was ready and sorted; once its prerequisite is cleared, it is neither. -/
theorem ready_task_lost :
    halfDoneLedger.getReadyTasks.map Task.taskId = ["second"] ∧
    halfDoneLedger.clearCompletedTasks.getReadyTasks = [] ∧
    topologicalSort .insertion halfDoneLedger = some (.sorted ["first", "second"]) ∧
    topologicalSort .insertion halfDoneLedger.clearCompletedTasks = some (.sorted []) ∧
    ¬ KeepsReadiness .insertion .insertion halfDoneLedger := by
  have ready : halfDoneLedger.getReadyTasks.map Task.taskId = ["second"] := by decide +kernel
  have lost : halfDoneLedger.clearCompletedTasks.getReadyTasks = [] := by decide +kernel
  have sorted : topologicalSort .insertion halfDoneLedger = some (.sorted ["first", "second"]) := by
    decide +kernel
  have unsorted :
      topologicalSort .insertion halfDoneLedger.clearCompletedTasks = some (.sorted []) := by
    decide +kernel
  have wrong : ¬ KeepsReadiness .insertion .insertion halfDoneLedger := by
    intro keeps
    have member : "second" ∈ halfDoneLedger.getReadyTasks.map Task.taskId := by simp [ready]
    obtain ⟨task, offered, _⟩ := List.mem_map.mp member
    have pending := ((mem_getReadyTasks _ task).mp offered).2.1
    have after := (keeps.ready task pending).mp offered
    cases after
  exact ⟨ready, lost, sorted, unsorted, wrong⟩

end Hartos.SmartLedger
