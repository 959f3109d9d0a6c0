import Hartos.LongestPath
import Hartos.TaskGraph
import Mathlib.Algebra.Order.Ring.Rat
import Mathlib.Tactic.Linarith

/-!
The critical path of a ledger's tasks and the analysis that reports it. Durations are
exact numbers; what a task's context holds under `estimated_duration` is a parameter,
since the contexts modelled here keep whole numbers only.
-/
namespace Hartos.SmartLedger
open KeyedTable TaskStatus

section Source
variable (order : SetOrder) (estimated : Task → Option ℚ) (ledger : SmartLedger)

def durationOf (taskId : TaskId) : ℚ :=
  match ledger.getTask taskId with
  | some task => (estimated task).getD 1
  | none => 1

/-- What these functions raise: the sort's ValueError, the one of `max` on nothing, a
KeyError. -/
inductive Failure where
  | cyclic (text : String)
  | emptyMax
  | missingKey (taskId : TaskId)
  deriving DecidableEq

def sortOrFail : Option (Except Failure (List TaskId)) :=
  (topologicalSort order ledger).map fun
    | .sorted tasks => .ok tasks
    | .raised text => .error (.cyclic text)

/-- The outer `none` would be a loop without end. -/
def criticalPathOf (sorted : List TaskId) : Option (Except Failure (List TaskId × ℚ)) :=
  let labels := LongestPath.label (ledger.adjacency order) (ledger.durationOf estimated) sorted
  match ledger.tasks.keys.argmax labels.distance with
  | none => some (.error .emptyMax)
  | some endNode =>
      (LongestPath.climb labels.parent (ledger.tasks.keys.length + 1) endNode).map fun path =>
        .ok (path, labels.distance endNode)

def getCriticalPath : Option (Except Failure (List TaskId × ℚ)) :=
  match sortOrFail order ledger with
  | some (.ok sorted) => criticalPathOf order estimated ledger sorted
  | some (.error failure) => some (.error failure)
  | none => none

def levelOf (levels : List (TaskId × Nat)) : List TaskId → Except Failure Nat
  | [] => .ok 0
  | earlier :: rest =>
      match levels.lookup earlier, levelOf levels rest with
      | none, _ => .error (.missingKey earlier)
      | some _, .error failure => .error failure
      | some level, .ok above => .ok (max (level + 1) above)

def assignLevels : List TaskId → List (TaskId × Nat) → Except Failure (List (TaskId × Nat))
  | [], levels => .ok levels
  | taskId :: rest, levels =>
      match levelOf levels (ledger.reverseAdjacency order taskId) with
      | .ok level => assignLevels rest (levels ++ [(taskId, level)])
      | .error failure => .error failure

def groupLevels (levels : List (TaskId × Nat)) : List (List TaskId) :=
  let maxLevel := (levels.map Prod.snd).foldr max 0
  let groups := (List.range (maxLevel + 1)).map fun level =>
    (levels.filter (·.2 = level)).map Prod.fst
  groups.filter (· ≠ [])

def getParallelGroups : Option (Except Failure (List (List TaskId))) :=
  match sortOrFail order ledger with
  | some (.ok sorted) => some ((assignLevels order ledger sorted []).map groupLevels)
  | some (.error failure) => some (.error failure)
  | none => none

variable (shown : Status → String)

/-- One error for each prerequisite of a running task that is missing or not done.
`shown` is how the interpreter's f-strings show a status. -/
def transitionErrors (task : Task) : List String :=
  if task.status = .inProgress then
    task.prerequisites.filterMap fun earlier =>
      match ledger.getTask earlier with
      | none => some s!"Task {task.taskId}: prerequisite {earlier} not found"
      | some prereq =>
          if prereq.status ≠ .completed then
            some (s!"Task {task.taskId}: prerequisite {earlier} not completed (status: " ++
              shown prereq.status ++ ")")
          else none
  else []

def validateLedgerTransitions : List String :=
  ledger.tasks.rows.flatMap (ledger.transitionErrors shown)

structure Analysis where
  cycle : Option (List TaskId)
  canExecute : Bool
  executionOrder : List TaskId
  parallelGroups : List (List TaskId)
  criticalPath : List TaskId
  criticalDuration : ℚ
  errors : List String
  recommendations : List String
  deriving DecidableEq

def Analysis.valid (analysis : Analysis) : Bool := analysis.errors.length = 0

def recommend (cycle : Option (List TaskId)) (errors : List String)
    (groups : List (List TaskId)) : List String :=
  cycle.elim [] (fun walk => ["Fix circular dependency: " ++ " -> ".intercalate walk]) ++ errors ++
    if groups = [] then
      ["Consider marking independent tasks as PARALLEL for faster execution"]
    else []

def analyzeLedger : Option (Except Failure Analysis) :=
  let errors := ledger.validateLedgerTransitions shown
  match detectCycles order ledger, topologicalSort order ledger with
  | some cycle, some (.raised _) =>
      some (.ok ⟨cycle, false, [], [], [], 0, errors, recommend cycle errors []⟩)
  | some cycle, some (.sorted sorted) =>
      match getParallelGroups order ledger, getCriticalPath order estimated ledger with
      | some (.ok groups), some (.ok (path, duration)) =>
          some (.ok ⟨cycle, true, sorted, groups, path, duration, errors,
            recommend cycle errors groups⟩)
      | some (.error failure), _ => some (.error failure)
      | some (.ok _), some (.error failure) => some (.error failure)
      | _, _ => none
  | _, _ => none

end Source

def pathDuration (estimated : Task → Option ℚ) (ledger : SmartLedger) (path : List TaskId) : ℚ :=
  (path.map (ledger.durationOf estimated)).sum

structure IsPrerequisitePath (ledger : SmartLedger) (path : List TaskId) : Prop where
  nonempty : path ≠ []
  tasks : ∀ taskId ∈ path, taskId ∈ ledger.tasks.keys
  chain : path.IsChain ledger.Prerequisite

def Longest (estimated : Task → Option ℚ) (ledger : SmartLedger) (path : List TaskId) : Prop :=
  ∀ other, ledger.IsPrerequisitePath other →
    ledger.pathDuration estimated other ≤ ledger.pathDuration estimated path

variable (order : SetOrder) (estimated : Task → Option ℚ) (ledger : SmartLedger)
  (path : List TaskId) (sorted : List TaskId)

theorem path_of_prerequisites (chain : path.IsChain ledger.Prerequisite) :
    LongestPath.IsPath (ledger.adjacency order) path :=
  chain.imp fun earlier later edge => (ledger.mem_adjacency order earlier later).mpr edge.2

theorem prerequisites_of_path (tasks : ∀ taskId ∈ path, taskId ∈ ledger.tasks.keys)
    (chain : LongestPath.IsPath (ledger.adjacency order) path) :
    path.IsChain ledger.Prerequisite := by
  apply List.IsChain.imp_of_mem_imp _ chain
  intro earlier later first second edge
  exact ⟨tasks earlier first, tasks later second,
    ((ledger.mem_adjacency order earlier later).mp edge).2⟩

theorem sorted_forward (once : sorted.Nodup)
    (ordered : KahnQueue.Ordered (ledger.reverseAdjacency order) sorted) :
    LongestPath.Forward (ledger.adjacency order) sorted := by
  intro before taskId after whole earlier member edge
  have needed : taskId ∈ ledger.reverseAdjacency order earlier :=
    ((taskGraph order ledger).edges taskId earlier).mp edge |>.2
  have fresh : taskId ∉ before := by
    intro inside
    rw [whole] at once
    exact (List.nodup_append.mp once).2.2 taskId inside taskId List.mem_cons_self rfl
  rcases List.mem_append.mp member with inside | last
  · obtain ⟨first, rest, parts⟩ := List.append_of_mem inside
    have placed := ordered first earlier (rest ++ taskId :: after) (by simp [whole, parts]) taskId
      needed
    exact fresh (by simp [parts, placed])
  · rw [List.mem_singleton] at last
    subst last
    exact fresh (ordered before earlier after whole earlier needed)

theorem getCriticalPath_acyclic (acyclic : ledger.AcyclicTasks)
    (nonempty : ledger.tasks.keys ≠ []) :
    ∃ front endNode,
      getCriticalPath order estimated ledger =
        some (.ok (front ++ [endNode], ledger.pathDuration estimated front)) ∧
      ledger.IsPrerequisitePath (front ++ [endNode]) ∧
      (∀ taskId ∈ front, ledger.Grounded taskId) ∧
      ∀ before last, ledger.IsPrerequisitePath (before ++ [last]) →
        (∀ taskId ∈ before, ledger.Grounded taskId) →
          ledger.pathDuration estimated before ≤ ledger.pathDuration estimated front := by
  obtain ⟨sorted, found, once, ordered, members⟩ := ledger.topologicalSort_acyclic order acyclic
  have forward := ledger.sorted_forward order sorted once ordered
  have inv : LongestPath.Inv (ledger.adjacency order) (ledger.durationOf estimated) sorted
      (LongestPath.label (ledger.adjacency order) (ledger.durationOf estimated) sorted) :=
    LongestPath.label_inv forward
  have grounded (taskId : TaskId) : taskId ∈ sorted ↔ ledger.Grounded taskId :=
    (members taskId).trans (ledger.sortable_iff order acyclic taskId)
  have within : sorted ⊆ ledger.tasks.keys := fun taskId member => ((grounded taskId).mp member).1
  have room : sorted.length + 1 ≤ ledger.tasks.keys.length + 1 :=
    Nat.succ_le_succ (once.subperm within).length_le
  generalize named :
    LongestPath.label (ledger.adjacency order) (ledger.durationOf estimated) sorted = labels at inv
  cases chosen : ledger.tasks.keys.argmax labels.distance with
  | none => exact absurd (List.argmax_eq_none.mp chosen) nonempty
  | some endNode =>
    have member : endNode ∈ ledger.tasks.keys := List.argmax_mem chosen
    obtain ⟨front, climbed, leads⟩ := LongestPath.climb_any forward labels inv endNode
    have climbed' := LongestPath.climb_mono _ _ _ room _ _ climbed
    have tasks (taskId : TaskId) (inside : taskId ∈ front ++ [endNode]) :
        taskId ∈ ledger.tasks.keys := by
      rcases List.mem_append.mp inside with earlier | last
      · exact within (leads.inside taskId earlier)
      · exact List.mem_singleton.mp last ▸ member
    have answer : getCriticalPath order estimated ledger =
        some (.ok (front ++ [endNode], ledger.pathDuration estimated front)) := by
      have sum : ledger.pathDuration estimated front = labels.distance endNode := leads.sum
      simp [getCriticalPath, sortOrFail, found, criticalPathOf, named, chosen, climbed', sum]
    refine ⟨front, endNode, answer, ⟨by simp, tasks, ?_⟩, ?_, ?_⟩
    · exact ledger.prerequisites_of_path order _ tasks leads.path
    · exact fun taskId inside => (grounded taskId).mp (leads.inside taskId inside)
    · intro before last path below
      have lastTask := path.tasks last (by simp)
      calc ledger.pathDuration estimated before ≤ labels.distance last :=
            LongestPath.distance_ge labels inv before last
              (ledger.path_of_prerequisites order _ path.chain)
              fun taskId inside => (grounded taskId).mpr (below taskId inside)
        _ ≤ labels.distance endNode := List.le_of_mem_argmax lastTask chosen
        _ = ledger.pathDuration estimated front := leads.sum.symm

theorem levelOf_ok (levels : List (TaskId × Nat)) (prereqs : List TaskId)
    (known : ∀ earlier ∈ prereqs, earlier ∈ levels.map Prod.fst) :
    ∃ level, levelOf levels prereqs = .ok level := by
  induction prereqs with
  | nil => exact ⟨0, rfl⟩
  | cons earlier rest ih =>
    obtain ⟨above, rest_ok⟩ := ih fun other member => known other (List.mem_cons_of_mem _ member)
    have present := known earlier List.mem_cons_self
    cases found : levels.lookup earlier with
    | none =>
      rw [List.lookup_eq_none_iff] at found
      obtain ⟨entry, member, same⟩ := List.mem_map.mp present
      exact absurd (found entry member) (by simp [same])
    | some level => exact ⟨max (level + 1) above, by simp [levelOf, found, rest_ok]⟩

-- Each task finds the levels of its prerequisites, which come before it.
theorem assignLevels_ok (ordered : KahnQueue.Ordered (ledger.reverseAdjacency order) sorted) :
    ∃ levels, assignLevels order ledger sorted [] = .ok levels := by
  suffices run : ∀ rest levels, sorted = levels.map Prod.fst ++ rest →
      ∃ final, assignLevels order ledger rest levels = .ok final from run sorted [] rfl
  intro rest
  induction rest with
  | nil => exact fun levels _ => ⟨levels, rfl⟩
  | cons taskId rest ih =>
    intro levels whole
    obtain ⟨level, found⟩ := levelOf_ok levels (ledger.reverseAdjacency order taskId)
      (ordered _ taskId rest whole)
    obtain ⟨final, done⟩ := ih (levels ++ [(taskId, level)]) (by simp [whole])
    exact ⟨final, by simp [assignLevels, found, done]⟩

theorem analyzeLedger_acyclic (shown : Status → String) (acyclic : ledger.AcyclicTasks)
    (nonempty : ledger.tasks.keys ≠ []) :
    ∃ analysis, analyzeLedger order estimated ledger shown = some (.ok analysis) := by
  obtain ⟨sorted, found, once, ordered, members⟩ := ledger.topologicalSort_acyclic order acyclic
  obtain ⟨front, endNode, critical, _⟩ :=
    ledger.getCriticalPath_acyclic order estimated acyclic nonempty
  obtain ⟨levels, assigned⟩ := ledger.assignLevels_ok order sorted ordered
  have clear := (detectCycles_none order ledger).mpr acyclic
  have groups : getParallelGroups order ledger = some (.ok (groupLevels levels)) := by
    simp [getParallelGroups, sortOrFail, found, assigned, Except.map]
  simp [analyzeLedger, clear, found, groups, critical]

structure FindsCriticalPath (order : SetOrder) (estimated : Task → Option ℚ)
    (ledger : SmartLedger) (shown : Status → String) : Prop where
  critical : ∃ path total, getCriticalPath order estimated ledger = some (.ok (path, total)) ∧
    ledger.IsPrerequisitePath path ∧ total = ledger.pathDuration estimated path ∧
      ledger.Longest estimated path
  analysed : ∃ analysis, analyzeLedger order estimated ledger shown = some (.ok analysis)

def EndsFree (estimated : Task → Option ℚ) (ledger : SmartLedger) : Prop :=
  ∃ front last, ledger.IsPrerequisitePath (front ++ [last]) ∧
    ledger.Longest estimated (front ++ [last]) ∧ ledger.durationOf estimated last = 0 ∧
      ∀ taskId ∈ front, ledger.Grounded taskId

theorem pathDuration_concat (front : List TaskId) (last : TaskId) :
    ledger.pathDuration estimated (front ++ [last]) =
      ledger.pathDuration estimated front + ledger.durationOf estimated last := by
  simp [pathDuration]

theorem durationOf_nonneg
    (nonneg : ∀ task ∈ ledger.tasks.rows, ∀ amount, estimated task = some amount → 0 ≤ amount)
    (taskId : TaskId) : 0 ≤ ledger.durationOf estimated taskId := by
  unfold durationOf
  cases found : ledger.getTask taskId with
  | none => exact zero_le_one
  | some task =>
    have member : task ∈ ledger.tasks.rows := Table.get?_mem ledger.tasks taskId task found
    cases amount : estimated task with
    | none => simp [amount]
    | some amount' => simpa [amount] using nonneg task member amount' amount

/-- The total leaves out the last task, and the end is chosen by what comes before it. -/
theorem finds_critical_path_iff (order : SetOrder) (estimated : Task → Option ℚ)
    (ledger : SmartLedger) (shown : Status → String) (acyclic : ledger.AcyclicTasks)
    (nonneg : ∀ task ∈ ledger.tasks.rows, ∀ amount, estimated task = some amount → 0 ≤ amount) :
    FindsCriticalPath order estimated ledger shown ↔ ledger.EndsFree estimated := by
  by_cases nonempty : ledger.tasks.keys = []
  · have noPath (path : List TaskId) : ¬ ledger.IsPrerequisitePath path := by
      intro isPath
      obtain ⟨first, rest, rfl⟩ := List.exists_cons_of_ne_nil isPath.nonempty
      have member := isPath.tasks first List.mem_cons_self
      rw [nonempty] at member
      cases member
    constructor
    · intro finds
      obtain ⟨path, _, _, isPath, _⟩ := finds.critical
      exact absurd isPath (noPath path)
    · rintro ⟨front, last, isPath, _⟩
      exact absurd isPath (noPath _)
  · obtain ⟨front, endNode, answer, isPath, grounded, most⟩ :=
      ledger.getCriticalPath_acyclic order estimated acyclic nonempty
    have concat := ledger.pathDuration_concat estimated
    constructor
    · intro finds
      obtain ⟨path, total, answer', _, sum, longest⟩ := finds.critical
      rw [answer] at answer'
      cases answer'
      have free := (concat front endNode).symm.trans sum.symm
      exact ⟨front, endNode, isPath, longest, by linarith, grounded⟩
    · rintro ⟨before, last, path, longest, free, below⟩
      have least := ledger.durationOf_nonneg estimated nonneg endNode
      have bound := most before last path below
      have reach := longest _ isPath
      rw [concat, concat, free] at reach
      have same : ledger.durationOf estimated endNode = 0 := by linarith
      refine ⟨⟨_, _, answer, isPath, ?_, ?_⟩, ?_⟩
      · rw [concat, same, add_zero]
      · intro other isOther
        have shorter := longest other isOther
        rw [concat, free] at shorter
        rw [concat, same]
        linarith
      · exact ledger.analyzeLedger_acyclic order estimated shown acyclic nonempty

def workLedger (tasks : List Task) : SmartLedger :=
  { orphanedLedger with
    tasks := tasks.foldl Table.set (Table.empty Task.taskId)
    taskOrder := tasks.map Task.taskId }

def releaseLedger : SmartLedger :=
  workLedger [Task.create "build" "work" .autonomous 0,
    { Task.create "release" "work" .autonomous 0 with prerequisites := ["build"] }]

def releaseEstimate (task : Task) : Option ℚ := if task.taskId = "build" then some 3 else some 0

theorem release_critical :
    getCriticalPath .insertion releaseEstimate releaseLedger =
      some (.ok (["build", "release"], 3)) ∧
    (FindsCriticalPath .insertion releaseEstimate releaseLedger (fun _ => "") ↔
      releaseLedger.EndsFree releaseEstimate) := by
  have clear : detectCycles .insertion releaseLedger = some none := by decide +kernel
  have answer : getCriticalPath .insertion releaseEstimate releaseLedger =
      some (.ok (["build", "release"], 3)) := by decide +kernel
  refine ⟨answer, finds_critical_path_iff .insertion releaseEstimate releaseLedger (fun _ => "")
    ((detectCycles_none _ _).mp clear) ?_⟩
  intro task _ amount estimate
  unfold releaseEstimate at estimate
  split at estimate <;> cases estimate <;> decide

/-- One task of the default duration 1 is reported with a total of 0, and the analysis
of an empty ledger raises. -/
theorem last_task_uncounted :
    (workLedger [Task.create "only" "work" .autonomous 0]).AcyclicTasks ∧
    getCriticalPath .insertion (fun _ => none)
      (workLedger [Task.create "only" "work" .autonomous 0]) = some (.ok (["only"], 0)) ∧
    ¬ FindsCriticalPath .insertion (fun _ => none)
      (workLedger [Task.create "only" "work" .autonomous 0]) (fun _ => "") ∧
    analyzeLedger .insertion (fun _ => none) (workLedger []) (fun _ => "") =
      some (.error .emptyMax) := by
  have clear : detectCycles .insertion (workLedger [Task.create "only" "work" .autonomous 0]) =
      some none := by decide +kernel
  have answer : getCriticalPath .insertion (fun _ => none)
      (workLedger [Task.create "only" "work" .autonomous 0]) = some (.ok (["only"], 0)) := by
    decide +kernel
  have duration : (workLedger [Task.create "only" "work" .autonomous 0]).pathDuration
      (fun _ => none) ["only"] = 1 := by decide +kernel
  have empty : analyzeLedger .insertion (fun _ => none) (workLedger []) (fun _ => "") =
      some (.error .emptyMax) := by decide +kernel
  refine ⟨(detectCycles_none _ _).mp clear, answer, ?_, empty⟩
  intro finds
  obtain ⟨path, total, answer', _, sum, _⟩ := finds.critical
  rw [answer] at answer'
  cases answer'
  rw [duration] at sum
  exact absurd sum (by decide)

end Hartos.SmartLedger
