import Hartos.ColourSearch
import Hartos.KahnQueue
import Hartos.LedgerEvolution

/-!
The graph of a ledger's tasks: its adjacency sets, the cycle search over them and
the topological sort. A set is iterated in an order of its own. A prerequisite id
that names no task counts in the in-degree of those that wait for it.
-/
namespace Hartos.SmartLedger
open KeyedTable

section Graph
variable (order : SetOrder) (ledger : SmartLedger)

def adjacency (taskId : TaskId) : List TaskId := order.list (ledger.reversePrerequisites taskId)

def prerequisitesOf (taskId : TaskId) : List TaskId :=
  match ledger.getTask taskId with
  | none => []
  | some task => task.prerequisites

def reverseAdjacency (taskId : TaskId) : List TaskId := order.list (ledger.prerequisitesOf taskId)

/-- The answer of `detect_cycles`; the outer `none` would be a search without end. -/
def detectCycles : Option (Option (List TaskId)) :=
  ColourSearch.findCycle (ledger.adjacency order) ledger.tasks.keys

/-- What `topological_sort` returns, or the text of the ValueError it raises. -/
inductive Sorting where
  | sorted (tasks : List TaskId)
  | raised (text : String)
  deriving DecidableEq

def cycleText (cycle : List TaskId) : String :=
  "Cannot sort: cycle detected in tasks: " ++ " -> ".intercalate cycle

def topologicalSort : Option Sorting :=
  match detectCycles order ledger with
  | some none =>
      (KahnQueue.sort (ledger.adjacency order) (ledger.reverseAdjacency order)
        ledger.tasks.keys).map .sorted
  | some (some cycle) => some (.raised (cycleText cycle))
  | none => none

/-- Both are tasks of the ledger, and `later` lists `earlier`. -/
def Prerequisite (earlier later : TaskId) : Prop :=
  earlier ∈ ledger.tasks.keys ∧ later ∈ ledger.tasks.keys ∧ earlier ∈ ledger.prerequisitesOf later

def AcyclicTasks : Prop := ∀ taskId, ¬ Relation.TransGen ledger.Prerequisite taskId taskId

def AllPresent : Prop :=
  ∀ taskId ∈ ledger.tasks.keys, ∀ earlier ∈ ledger.prerequisitesOf taskId,
    earlier ∈ ledger.tasks.keys

def IsCycle (walk : List TaskId) : Prop :=
  ∃ taskId middle, walk = taskId :: (middle ++ [taskId]) ∧ walk.IsChain ledger.Prerequisite

end Graph

variable (order : SetOrder) (ledger : SmartLedger) (earlier later : TaskId)

theorem mem_reversePrerequisites :
    later ∈ ledger.reversePrerequisites earlier ↔
      later ∈ ledger.tasks.keys ∧ earlier ∈ ledger.prerequisitesOf later := by
  unfold reversePrerequisites prerequisitesOf
  constructor
  · intro member
    obtain ⟨task, inside, rfl⟩ := List.mem_map.mp member
    obtain ⟨among, lists⟩ := List.mem_filter.mp inside
    have found : ledger.getTask task.taskId = some task := Table.mem_get? ledger.tasks task among
    exact ⟨List.mem_map_of_mem among, by simpa [found] using lists⟩
  · rintro ⟨member, lists⟩
    obtain ⟨task, among, rfl⟩ := List.mem_map.mp member
    have found : ledger.getTask task.taskId = some task := Table.mem_get? ledger.tasks task among
    rw [found] at lists
    exact List.mem_map_of_mem (List.mem_filter.mpr ⟨among, by simpa using lists⟩)

theorem mem_adjacency :
    later ∈ ledger.adjacency order earlier ↔
      later ∈ ledger.tasks.keys ∧ earlier ∈ ledger.prerequisitesOf later := by
  rw [adjacency, order.mem_list, mem_reversePrerequisites]

theorem taskGraph :
    KahnQueue.Graph (ledger.adjacency order) (ledger.reverseAdjacency order) ledger.tasks.keys where
  once := ledger.tasks.unique
  distinct := fun _ => order.nodup _
  dependents := fun _ => order.nodup _
  edges := fun earlier later => by rw [mem_adjacency, reverseAdjacency, order.mem_list]

theorem adjacency_inside (edge : later ∈ ledger.adjacency order earlier) :
    later ∈ ledger.tasks.keys :=
  ((ledger.mem_adjacency order earlier later).mp edge).1

-- The ids of tasks that are gone are on no cycle, so both relations have the same.
theorem acyclic_iff : ColourSearch.Acyclic (ledger.adjacency order) ↔ ledger.AcyclicTasks := by
  have entered (first last : TaskId)
      (path : Relation.TransGen (fun earlier later => later ∈ ledger.adjacency order earlier)
        first last) (member : first ∈ ledger.tasks.keys) :
      last ∈ ledger.tasks.keys ∧ Relation.TransGen ledger.Prerequisite first last := by
    induction path with
    | single edge =>
      have known := (ledger.mem_adjacency order _ _).mp edge
      exact ⟨known.1, .single ⟨member, known⟩⟩
    | tail _ edge ih =>
      have known := (ledger.mem_adjacency order _ _).mp edge
      exact ⟨known.1, ih.2.tail ⟨ih.1, known⟩⟩
  constructor
  · intro acyclic taskId cycle
    have edges :
        ledger.Prerequisite ≤ fun earlier later => later ∈ ledger.adjacency order earlier :=
      fun earlier later edge => (ledger.mem_adjacency order earlier later).mpr edge.2
    exact acyclic taskId (Relation.TransGen.mono edges taskId taskId cycle)
  · intro acyclic taskId cycle
    obtain ⟨before, _, edge⟩ := Relation.TransGen.tail'_iff.mp cycle
    exact acyclic taskId
      (entered taskId taskId cycle (ledger.adjacency_inside order before taskId edge)).2

theorem detectCycles_none : detectCycles order ledger = some none ↔ ledger.AcyclicTasks := by
  rw [detectCycles, ColourSearch.findCycle_none_iff _ _ (ledger.adjacency_inside order),
    acyclic_iff]

theorem detectCycles_ends : detectCycles order ledger ≠ none := by
  rw [detectCycles]
  rcases ColourSearch.findCycle_spec _ _ (fun node later => ledger.adjacency_inside order node later)
    with ⟨clear, -⟩ | ⟨walk, found, -⟩
  · rw [clear]
    exact nofun
  · rw [found]
    exact nofun

theorem detectCycles_walk (walk : List TaskId)
    (found : detectCycles order ledger = some (some walk)) : ledger.IsCycle walk := by
  have closed := ColourSearch.findCycle_walk _ _ walk (ledger.adjacency_inside order) found
  have entered := closed.entered
  obtain ⟨taskId, middle, whole, chain⟩ := closed
  refine ⟨taskId, middle, whole, chain.imp_of_mem_imp fun earlier later member _ edge => ?_⟩
  obtain ⟨before, entry⟩ := entered earlier member
  exact ⟨ledger.adjacency_inside order before earlier entry,
    (ledger.mem_adjacency order earlier later).mp edge⟩

def Sortable (order : SetOrder) (ledger : SmartLedger) (taskId : TaskId) : Prop :=
  KahnQueue.Sortable (ledger.reverseAdjacency order) ledger.tasks.keys taskId

theorem topologicalSort_acyclic (acyclic : ledger.AcyclicTasks) :
    ∃ sorted, topologicalSort order ledger = some (.sorted sorted) ∧ sorted.Nodup ∧
      KahnQueue.Ordered (ledger.reverseAdjacency order) sorted ∧
      ∀ taskId, taskId ∈ sorted ↔ ledger.Sortable order taskId := by
  have clear := (detectCycles_none order ledger).mpr acyclic
  obtain ⟨sorted, found, once, ordered, members⟩ := KahnQueue.sort_spec (taskGraph order ledger)
  exact ⟨sorted, by simp [topologicalSort, clear, found], once, ordered, members⟩

/-- `later` lists `earlier`, whether or not that is a task. -/
def Needs (ledger : SmartLedger) (earlier later : TaskId) : Prop :=
  earlier ∈ ledger.prerequisitesOf later

def Grounded (ledger : SmartLedger) (taskId : TaskId) : Prop :=
  taskId ∈ ledger.tasks.keys ∧
    ∀ earlier, Relation.TransGen ledger.Needs earlier taskId → earlier ∈ ledger.tasks.keys

theorem sortable_iff (acyclic : ledger.AcyclicTasks) (taskId : TaskId) :
    ledger.Sortable order taskId ↔ ledger.Grounded taskId := by
  have edges : (fun first second => first ∈ ledger.reverseAdjacency order second) =
      ledger.Needs := by
    funext first second
    exact propext (order.mem_list _ _)
  unfold Grounded
  rw [← edges]
  constructor
  · intro sortable
    exact ⟨sortable.member, sortable.needs_member⟩
  · rintro ⟨member, below⟩
    exact KahnQueue.sortable_of_below (taskGraph order ledger)
      ((acyclic_iff order ledger).mpr acyclic) taskId member below

theorem all_sortable_iff (acyclic : ledger.AcyclicTasks) :
    (∀ taskId ∈ ledger.tasks.keys, ledger.Sortable order taskId) ↔ ledger.AllPresent := by
  constructor
  · intro all taskId member earlier needed
    exact ((ledger.sortable_iff order acyclic taskId).mp (all taskId member)).2 earlier
      (.single needed)
  · intro present taskId member
    rw [sortable_iff order ledger acyclic]
    refine ⟨member, fun earlier path => ?_⟩
    induction path using Relation.TransGen.head_induction_on with
    | single needed => exact present taskId member _ needed
    | head needed _ ih => exact present _ ih _ needed

def AfterPrerequisites (ledger : SmartLedger) (sorted : List TaskId) : Prop :=
  ∀ before taskId after, sorted = before ++ taskId :: after →
    ∀ earlier ∈ ledger.prerequisitesOf taskId, earlier ∈ ledger.tasks.keys → earlier ∈ before

structure GraphAnswers (order : SetOrder) (ledger : SmartLedger) : Prop where
  ends : detectCycles order ledger ≠ none
  detects : detectCycles order ledger = some none ↔ ledger.AcyclicTasks
  cycles : ∀ walk, detectCycles order ledger = some (some walk) → ledger.IsCycle walk
  sorts : ledger.AcyclicTasks → ∃ sorted,
    topologicalSort order ledger = some (.sorted sorted) ∧ sorted.Perm ledger.tasks.keys ∧
      ledger.AfterPrerequisites sorted

/-- The cycle search answers rightly always; the sort takes every task exactly when
no prerequisite is missing. -/
theorem graph_answers_iff (order : SetOrder) (ledger : SmartLedger) :
    GraphAnswers order ledger ↔ (¬ ledger.AcyclicTasks ∨ ledger.AllPresent) := by
  constructor
  · intro answers
    by_cases acyclic : ledger.AcyclicTasks
    · apply Or.inr
      apply (ledger.all_sortable_iff order acyclic).mp
      intro taskId member
      obtain ⟨sorted, found, perm, _⟩ := answers.sorts acyclic
      obtain ⟨sorted', found', _, _, members⟩ := ledger.topologicalSort_acyclic order acyclic
      rw [found] at found'
      cases found'
      exact (members taskId).mp (perm.mem_iff.mpr member)
    · exact .inl acyclic
  · intro condition
    refine ⟨detectCycles_ends order ledger, detectCycles_none order ledger,
      detectCycles_walk order ledger, fun acyclic => ?_⟩
    have present : ledger.AllPresent := condition.resolve_left (not_not.mpr acyclic)
    obtain ⟨sorted, found, once, ordered, members⟩ := ledger.topologicalSort_acyclic order acyclic
    have all := (ledger.all_sortable_iff order acyclic).mpr present
    refine ⟨sorted, found, ?_, ?_⟩
    · apply (List.perm_ext_iff_of_nodup once ledger.tasks.unique).mpr
      intro taskId
      exact ⟨fun inside => ((members taskId).mp inside).member,
        fun member => (members taskId).mpr (all taskId member)⟩
    · intro before taskId after split earlier needed _
      exact ordered before taskId after split earlier ((order.mem_list _ _).mpr needed)

def orphanedTasks : List Task :=
  [{ Task.create "left" "work" .autonomous 0 with prerequisites := ["cleared"] }]

def orphanedLedger : SmartLedger where
  tasks := orphanedTasks.foldl Table.set (Table.empty Task.taskId)
  taskOrder := ["left"]
  events := []
  loadedTaskIds := []
  pubsub := false
  published := []
  backend := ⟨none, fun _ => .accepted, 0⟩

/-- There is no cycle, and the sort leaves the task out. -/
theorem orphan_left_out : detectCycles .insertion orphanedLedger = some none ∧
    orphanedLedger.tasks.keys = ["left"] ∧
    topologicalSort .insertion orphanedLedger = some (.sorted []) ∧
    ¬ GraphAnswers .insertion orphanedLedger := by
  have clear : detectCycles .insertion orphanedLedger = some none := by decide +kernel
  have sorted : topologicalSort .insertion orphanedLedger = some (.sorted []) := by decide +kernel
  have wrong : ¬ GraphAnswers .insertion orphanedLedger := by
    intro answers
    obtain ⟨all, found, perm, _⟩ := answers.sorts ((detectCycles_none _ _).mp clear)
    cases found
    exact absurd perm.length_eq (by decide)
  exact ⟨clear, rfl, sorted, wrong⟩

end Hartos.SmartLedger
