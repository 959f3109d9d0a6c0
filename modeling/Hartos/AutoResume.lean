import Hartos.StatusRollback

/-!
Which tasks a completion sets going again. The loop decides on the status and
the `blocked_by` list alone; what it does is described exactly, task by task, and
compared with what the task was really waiting for.
-/
namespace Hartos.SmartLedger
open TaskStatus KeyedTable
variable {before middle after : SmartLedger}

def statusOf (ledger : SmartLedger) (taskId : TaskId) : Option Status :=
  (ledger.getTask taskId).map Task.status

def waitsOnlyOn (completedId : TaskId) (task : Task) : Bool :=
  decide (task.status = .blocked) && (task.blockedBy.erase completedId).isEmpty

def Frees (ledger : SmartLedger) (completedId taskId : TaskId) : Prop :=
  ∃ task, ledger.getTask taskId = some task ∧ waitsOnlyOn completedId task = true

inductive Reaches (ledger : SmartLedger) (completedId : TaskId) : TaskId → Prop
  | direct {taskId : TaskId} (link : taskId ∈ ledger.dependentsOf completedId) :
      Reaches ledger completedId taskId
  | beyond {taskId next : TaskId} (reached : Reaches ledger completedId taskId)
      (freed : Frees ledger completedId taskId) (link : next ∈ ledger.dependentsOf taskId) :
      Reaches ledger completedId next

/-- How a visit to `visited` ids leaves a row. -/
structure Released (completedId : TaskId) (visited : TaskId → Prop) [DecidablePred visited]
    (old new : Task) : Prop where
  cascaded : Cascaded old new
  blockedBy : new.blockedBy =
    if visited old.taskId then old.blockedBy.erase completedId else old.blockedBy
  status : new.status =
    if visited old.taskId ∧ waitsOnlyOn completedId old = true then .inProgress else old.status

structure Steady (old new : Task) : Prop where
  cascaded : Cascaded old new
  blockedBy : new.blockedBy = old.blockedBy
  status : new.status = old.status

variable (host : Host) (ledger : SmartLedger) (task : Task) (now : Time)

theorem Steady.refl : Steady task task := ⟨Cascaded.refl task, rfl, rfl⟩

theorem Steady.trans (a b c : Task) (first : Steady a b) (second : Steady b c) : Steady a c :=
  ⟨first.cascaded.trans a b c second.cascaded, second.blockedBy.trans first.blockedBy,
    second.status.trans first.status⟩

theorem receiveMessages_steady (messages : List Message) (now : Time) :
    Steady task (task.receiveMessages messages now) := by
  unfold Task.receiveMessages
  split
  · exact Steady.refl task
  · exact ⟨⟨rfl, Or.inl rfl⟩, rfl, rfl⟩

theorem deliver_steady (senderId dependentId : TaskId) (now : Time) :
    Reworked Steady ledger (ledger.deliver senderId dependentId now) := by
  apply deliver_rows ledger senderId dependentId now Steady.refl
  · intro old new messages row _
    exact row.trans old new _ ⟨⟨rfl, Or.inl rfl⟩, rfl, rfl⟩
  · intro old new messages row _
    exact row.trans old new _ (receiveMessages_steady new messages now)

theorem removeBlockingTask_blockedBy (blocker : TaskId) (now : Time) :
    (task.removeBlockingTask blocker now).blockedBy = task.blockedBy.erase blocker ∧
      (task.removeBlockingTask blocker now).status = task.status := by
  unfold Task.removeBlockingTask
  by_cases listed : blocker ∈ task.blockedBy
  · simp [listed]
  · simp [listed, List.erase_of_not_mem]

theorem resume_blocked (reason : String) (now : Time) (blocked : task.status = .blocked) :
    ∃ resumed, task.resume reason now = some resumed ∧ Cascaded task resumed ∧
      resumed.blockedBy = task.blockedBy ∧ resumed.status = .inProgress := by
  have allowed : task.validateTransition .resuming = true := by
    simp only [Task.validateTransition, Task.transitionRefusal, blocked]
    decide
  cases moved : task.resume reason now with
  | none => simp [Task.resume, Task.move, allowed] at moved
  | some resumed =>
    refine ⟨resumed, rfl, resume_cascaded task resumed reason now blocked moved, ?_⟩
    simp only [Task.resume, Task.move, allowed, ↓reduceIte, Option.map_some,
      Option.some.injEq] at moved
    subst resumed
    exact ⟨rfl, rfl⟩

theorem Steady.waits {old new : Task} (steady : Steady old new) (completedId : TaskId) :
    waitsOnlyOn completedId new = waitsOnlyOn completedId old := by
  simp only [waitsOnlyOn, steady.status, steady.blockedBy]

theorem released_putTask (current : SmartLedger) (completedId dependentId : TaskId)
    (received final : Task) (delivered : Reworked Steady before current)
    (there : current.getTask dependentId = some received) (change : Cascaded received final)
    (blockedBy : final.blockedBy = received.blockedBy.erase completedId)
    (status : final.status =
      if waitsOnlyOn completedId received = true then .inProgress else received.status) :
    Reworked (Released completedId (· = dependentId)) before (current.putTask final) := by
  have named := getTask_taskId current dependentId received there
  have written : Reworked (fun old new => if old.taskId = dependentId then
      old = received ∧ new = final else new = old) current (current.putTask final) :=
    reworked_putTask current received final
      (fun other different => by rw [change.taskId, named] at different; simp [different])
      (by rw [change.taskId, named, there]) (by simp [named])
  refine delivered.trans ?_ written
  intro a b c steady wrote
  have sameId := steady.cascaded.taskId
  by_cases here : a.taskId = dependentId
  · rw [if_pos (sameId.trans here)] at wrote
    obtain ⟨rfl, rfl⟩ := wrote
    refine ⟨steady.cascaded.trans a b c change, ?_, ?_⟩
    · simp [here, blockedBy, steady.blockedBy]
    · simp [here, status, steady.status, steady.waits]
  · rw [if_neg (sameId ▸ here)] at wrote
    subst wrote
    exact ⟨steady.cascaded, by simp [here, steady.blockedBy], by simp [here, steady.status]⟩

theorem visitDependent_spec (senderId : TaskId) (direct : List TaskId) (now : Time)
    (state : SmartLedger × List TaskId) (dependentId : TaskId) (task : Task)
    (found : state.1.getTask dependentId = some task) :
    Reworked (Released senderId (· = dependentId)) state.1
        (visitDependent senderId direct now state dependentId).1.1 ∧
      (visitDependent senderId direct now state dependentId).1.2 =
        (if waitsOnlyOn senderId task then state.2 ++ [dependentId] else state.2) ∧
      (visitDependent senderId direct now state dependentId).2 =
        if waitsOnlyOn senderId task then state.1.dependentsOf dependentId else [] := by
  have delivered : Reworked Steady state.1
      (if dependentId ∈ direct then state.1.deliver senderId dependentId now else state.1) := by
    split
    · exact deliver_steady state.1 senderId dependentId now
    · exact Reworked.refl Steady.refl state.1
  unfold visitDependent
  simp only [found]
  generalize (if dependentId ∈ direct then state.1.deliver senderId dependentId now
    else state.1) = current at delivered ⊢
  obtain ⟨received, there, steady⟩ := delivered.getTask_some dependentId task found
  have freed := removeBlockingTask_blockedBy received senderId now
  have kept := (removeBlockingTask_cascaded received senderId now).taskId
  have named := getTask_taskId current dependentId received there
  have row : (current.modifyTask dependentId fun d => d.removeBlockingTask senderId now) =
      current.putTask (received.removeBlockingTask senderId now) := by
    simp only [modifyTask, there]
  have ready : ((received.removeBlockingTask senderId now).status = .blocked ∧
      (received.removeBlockingTask senderId now).isBlocked = false) ↔
        waitsOnlyOn senderId task = true := by
    simp [Task.isBlocked, freed.1, freed.2, waitsOnlyOn, steady.blockedBy, steady.status]
  simp only [row, getTask_putTask, kept, named, ↓reduceIte]
  by_cases freed' : waitsOnlyOn senderId task = true
  · have blocked := ready.mpr freed'
    obtain ⟨resumed, moved, change, sameBlockers, running⟩ :=
      resume_blocked _ s!"Auto-resume: dependency {senderId} completed" now blocked.1
    have sameId := (removeBlockingTask_cascaded received senderId now).trans _ _ _ change
    have overwritten : (current.putTask (received.removeBlockingTask senderId now)).putTask resumed =
        current.putTask resumed := by
      simp only [putTask, Table.set_set current.tasks _ resumed change.taskId.symm]
    have after := released_putTask current senderId dependentId received resumed delivered there
      sameId (sameBlockers.trans freed.1) (by simp [running, steady.waits, freed'])
    simp only [blocked, and_self, ↓reduceIte, moved, freed', overwritten, true_and]
    refine ⟨after, ?_⟩
    have links := (after.mono fun _ _ pair => pair.cascaded.links).dependentsOf
    have row : (current.putTask resumed).getTask dependentId = some resumed := by
      rw [getTask_putTask, if_pos (sameId.taskId.trans named)]
    rw [← congrFun links dependentId]
    simp [dependentsOf, row]
  · have after := released_putTask current senderId dependentId received
      (received.removeBlockingTask senderId now) delivered there
      (removeBlockingTask_cascaded received senderId now) freed.1
      (by simp [freed.2, steady.waits, freed'])
    simp only [mt ready.mp freed', ↓reduceIte, freed', Bool.false_eq_true, and_self, after]

structure Progress (start : SmartLedger) (completedId : TaskId) (direct queue visited : List TaskId)
    (state : SmartLedger × List TaskId) : Prop where
  rows : Reworked (Released completedId (· ∈ visited)) start state.1
  reached : ∀ taskId, taskId ∈ visited ∨ taskId ∈ queue → Reaches start completedId taskId
  resumed : ∀ taskId, taskId ∈ state.2 ↔ taskId ∈ visited ∧ Frees start completedId taskId
  seeds : ∀ taskId ∈ direct, taskId ∈ visited ∨ taskId ∈ queue
  closed : ∀ taskId ∈ visited, Frees start completedId taskId →
    ∀ next ∈ start.dependentsOf taskId, next ∈ visited ∨ next ∈ queue

section Loop
variable {start : SmartLedger} {completedId : TaskId} {direct queue visited : List TaskId}
variable {state : SmartLedger × List TaskId}

theorem Released.visit {a b c : Task} (key : TaskId) (fresh : key ∉ visited)
    (before : Released completedId (· ∈ visited) a b)
    (last : Released completedId (· = key) b c) :
    Released completedId (· ∈ key :: visited) a c := by
  have sameId := before.cascaded.taskId
  have both := before.cascaded.trans a b c last.cascaded
  have blockedBy := last.blockedBy
  have status := last.status
  by_cases here : a.taskId = key
  · have unseen : a.taskId ∉ visited := here ▸ fresh
    have steady : Steady a b :=
      ⟨before.cascaded, by simpa [unseen] using before.blockedBy,
        by simpa [unseen] using before.status⟩
    simp only [sameId, here, ↓reduceIte, true_and, steady.waits, steady.blockedBy,
      steady.status] at blockedBy status
    exact ⟨both, by simp [here, blockedBy], by simp [here, status]⟩
  · simp only [sameId, here, ↓reduceIte, false_and] at blockedBy status
    refine ⟨both, ?_, ?_⟩
    · simp only [List.mem_cons, here, false_or, blockedBy, before.blockedBy]
    · simp only [List.mem_cons, here, false_or, status, before.status]

variable {key : TaskId}

theorem Progress.drop (old : key ∈ visited)
    (progress : Progress start completedId direct (key :: queue) visited state) :
    Progress start completedId direct queue visited state := by
  refine ⟨progress.rows, ?_, progress.resumed, ?_, ?_⟩
  · rintro taskId (seen | waiting)
    · exact progress.reached taskId (Or.inl seen)
    · exact progress.reached taskId (Or.inr (List.mem_cons_of_mem key waiting))
  · intro taskId member
    exact Worklist.still_known old (progress.seeds taskId member)
  · intro taskId seen freed next link
    exact Worklist.still_known old (progress.closed taskId seen freed next link)

theorem Progress.unvisited (fresh : key ∉ visited)
    (progress : Progress start completedId direct queue visited state) (task : Task)
    (found : start.getTask key = some task) :
    ∃ current, state.1.getTask key = some current ∧ Steady task current := by
  obtain ⟨current, there, row⟩ := progress.rows.getTask_some key task found
  have named := start.getTask_taskId key task found
  have unseen : task.taskId ∉ visited := named ▸ fresh
  exact ⟨current, there, row.cascaded, by simpa [unseen] using row.blockedBy,
    by simpa [unseen] using row.status⟩

theorem frees_iff {task : Task} (found : start.getTask key = some task) :
    Frees start completedId key ↔ waitsOnlyOn completedId task = true := by
  constructor
  · rintro ⟨other, there, waits⟩
    rw [found, Option.some.injEq] at there
    exact there ▸ waits
  · exact fun waits => ⟨task, found, waits⟩

/-- What a visit must establish for the loop to be one further. -/
theorem Progress.advance {next : (SmartLedger × List TaskId) × List TaskId}
    (progress : Progress start completedId direct (key :: queue) visited state)
    (rows : Reworked (Released completedId (· ∈ key :: visited)) start next.1.1)
    (resumed : ∀ taskId, taskId ∈ next.1.2 ↔
      taskId ∈ state.2 ∨ (taskId = key ∧ Frees start completedId key))
    (queued : ∀ taskId, taskId ∈ next.2 ↔
      Frees start completedId key ∧ taskId ∈ start.dependentsOf key) :
    Progress start completedId direct (queue ++ next.2.filter (· ∉ key :: visited))
      (key :: visited) next.1 := by
  have head := progress.reached key (Or.inr List.mem_cons_self)
  refine ⟨rows, ?_, ?_, ?_, ?_⟩
  · rintro taskId (seen | waiting)
    · rcases List.mem_cons.mp seen with same | before
      · exact same ▸ head
      · exact progress.reached taskId (Or.inl before)
    · rcases List.mem_append.mp waiting with before | new
      · exact progress.reached taskId (Or.inr (List.mem_cons_of_mem key before))
      · have link := (queued taskId).mp (List.mem_filter.mp new).1
        exact Reaches.beyond head link.1 link.2
  · intro taskId
    rw [resumed, progress.resumed, List.mem_cons]
    constructor
    · rintro (⟨seen, freed⟩ | ⟨same, freed⟩)
      · exact ⟨Or.inr seen, freed⟩
      · exact ⟨Or.inl same, same ▸ freed⟩
    · rintro ⟨same | seen, freed⟩
      · exact Or.inr ⟨same, same ▸ freed⟩
      · exact Or.inl ⟨seen, freed⟩
  · intro taskId member
    exact Worklist.known_after_visit _ (progress.seeds taskId member)
  · intro taskId seen freed target link
    rcases List.mem_cons.mp seen with same | before
    · by_cases done : target ∈ key :: visited
      · exact Or.inl done
      · right
        apply List.mem_append_right
        rw [List.mem_filter, queued]
        exact ⟨⟨same ▸ freed, same ▸ link⟩, by simpa using done⟩
    · exact Worklist.known_after_visit _ (progress.closed taskId before freed target link)

theorem Progress.step {now : Time} (fresh : key ∉ visited)
    (progress : Progress start completedId direct (key :: queue) visited state) :
    Progress start completedId direct
      (queue ++ (visitDependent completedId direct now state key).2.filter (· ∉ key :: visited))
      (key :: visited) (visitDependent completedId direct now state key).1 := by
  cases found : start.getTask key with
  | none =>
    have absent := progress.rows.getTask_none key found
    have idle : ¬ Frees start completedId key := by
      rintro ⟨task, there, _⟩
      rw [found] at there
      cases there
    apply progress.advance
    · simp only [visitDependent, absent]
      apply progress.rows.sharpen
      intro taskId old new foundOld _ row
      have named := start.getTask_taskId taskId old foundOld
      have different : old.taskId ≠ key := by
        rintro rfl
        rw [← named, found] at foundOld
        cases foundOld
      exact ⟨row.cascaded, by simp [different, row.blockedBy], by simp [different, row.status]⟩
    · simp [visitDependent, absent, idle]
    · simp [visitDependent, absent, idle]
  | some task =>
    obtain ⟨current, there, steady⟩ := progress.unvisited fresh task found
    have spec := visitDependent_spec completedId direct now state key current there
    have links := (progress.rows.mono fun _ _ pair => pair.cascaded.links).dependentsOf
    rw [steady.waits, links] at spec
    apply progress.advance
    · exact progress.rows.trans (fun _ _ _ first second => first.visit key fresh second) spec.1
    · rw [spec.2.1, frees_iff found]
      split <;> simp [*]
    · rw [spec.2.2, frees_iff found]
      split <;> simp [*]

end Loop

structure Settled (ledger : SmartLedger) (completedId : TaskId) (old new : Task) : Prop where
  cascaded : Cascaded old new
  reached : Reaches ledger completedId old.taskId →
    new.blockedBy = old.blockedBy.erase completedId ∧
      new.status = if waitsOnlyOn completedId old then .inProgress else old.status
  spared : ¬ Reaches ledger completedId old.taskId →
    new.blockedBy = old.blockedBy ∧ new.status = old.status

theorem reaches_congr (completedId : TaskId) (links : after.dependentsOf = before.dependentsOf)
    (same : ∀ taskId, Frees after completedId taskId ↔ Frees before completedId taskId)
    (taskId : TaskId) : Reaches after completedId taskId ↔ Reaches before completedId taskId := by
  constructor
  · intro reached
    induction reached with
    | direct link => exact Reaches.direct (links ▸ link)
    | beyond _ freed link ih => exact Reaches.beyond ih ((same _).mp freed) (links ▸ link)
  · intro reached
    induction reached with
    | direct link => exact Reaches.direct (links ▸ link)
    | beyond _ freed link ih => exact Reaches.beyond ih ((same _).mpr freed) (links ▸ link)

theorem frees_steady (steady : Reworked Steady before after) (completedId taskId : TaskId) :
    Frees after completedId taskId ↔ Frees before completedId taskId := by
  constructor
  · rintro ⟨new, there, waits⟩
    obtain ⟨old, found, row⟩ := steady.getTask_origin taskId new there
    exact ⟨old, found, row.waits completedId ▸ waits⟩
  · rintro ⟨old, found, waits⟩
    obtain ⟨new, there, row⟩ := steady.getTask_some taskId old found
    exact ⟨new, there, (row.waits completedId).symm ▸ waits⟩

theorem announce_steady : Steady task (announce task now) := by
  unfold announce
  split <;> exact ⟨⟨rfl, Or.inl rfl⟩, rfl, rfl⟩

theorem announced_steady (found : ledger.getTask task.taskId = some task) :
    Reworked Steady ledger (ledger.putTask (announce task now)) :=
  reworked_putTask ledger task _ (fun other _ => Steady.refl other)
    (by rw [(announce_cascaded task now).taskId, found]) (announce_steady task now)

theorem progress_start (start : SmartLedger) (task : Task)
    (found : start.getTask task.taskId = some task) :
    Progress start task.taskId (start.completionDependencyIds host task).1
      (start.completionDependencyIds host task).1 [] (start, []) := by
  refine ⟨?_, ?_, by simp, fun _ member => Or.inr member, by simp⟩
  · apply Reworked.refl
    intro row
    exact ⟨Cascaded.refl row, by simp, by simp⟩
  · rintro taskId (seen | waiting)
    · cases seen
    · exact Reaches.direct ((start.mem_direct host task found taskId).mp waiting)

/-- The loop visits exactly the tasks it reaches, and leaves every row settled. -/
theorem loop_settles (host : Host) (start : SmartLedger) (task : Task) (now : Time)
    (found : start.getTask task.taskId = some task) :
    let direct := (start.completionDependencyIds host task).1
    let outcome := Worklist.walk (visitDependent task.taskId direct now) (start.walkFuel direct)
      direct [] (start, [])
    (∀ taskId, taskId ∈ outcome.visited ↔ Reaches start task.taskId taskId) ∧
      Reworked (Settled start task.taskId) start outcome.state.1 ∧
      ∀ taskId, taskId ∈ outcome.state.2 ↔
        Reaches start task.taskId taskId ∧ Frees start task.taskId taskId := by
  intro direct outcome
  have progress : Progress start task.taskId direct outcome.queue outcome.visited outcome.state :=
    (Worklist.walk_rule _ (Progress start task.taskId direct)
      (fun _ _ _ _ old holds => holds.drop old) (fun _ _ _ _ fresh holds => holds.step fresh)
      _ _ _ _ (progress_start host start task found)).1
  have ends : outcome.queue = [] := start.handleTaskCompletion_ends task.taskId direct now
  have visited : ∀ taskId, taskId ∈ outcome.visited ↔ Reaches start task.taskId taskId := by
    intro taskId
    constructor
    · exact fun seen => progress.reached taskId (Or.inl seen)
    · intro reached
      -- Induction on how the loop reaches the task: an empty queue leaves no one waiting.
      induction reached with
      | @direct next link =>
        have member : next ∈ direct := (start.mem_direct host task found next).mpr link
        simpa [ends] using progress.seeds next member
      | @beyond _ next _ freed link seen =>
        simpa [ends] using progress.closed _ seen freed next link
  refine ⟨visited, ?_, ?_⟩
  · apply progress.rows.mono
    intro old new row
    refine ⟨row.cascaded, ?_, ?_⟩
    · intro reached
      have seen := (visited old.taskId).mpr reached
      exact ⟨by simpa [seen] using row.blockedBy, by simpa [seen] using row.status⟩
    · intro spared
      have unseen := mt (visited old.taskId).mp spared
      exact ⟨by simpa [unseen] using row.blockedBy, by simpa [unseen] using row.status⟩
  · intro taskId
    rw [progress.resumed, visited]

/-- The completion cascade, from the ledger that holds the completed task. -/
theorem handleTaskCompletion_settles (found : ledger.getTask task.taskId = some task) :
    Reworked (Settled ledger task.taskId) ledger
        (ledger.handleTaskCompletion host task.taskId now).1 ∧
      ∀ taskId, taskId ∈ (ledger.handleTaskCompletion host task.taskId now).2 ↔
        Reaches ledger task.taskId taskId ∧ Frees ledger task.taskId taskId := by
  have steady := announced_steady ledger task now found
  have links := (steady.mono fun _ _ row => row.cascaded.links).dependentsOf
  have sameId := (announce_cascaded task now).taskId
  have row : (ledger.putTask (announce task now)).getTask (announce task now).taskId =
      some (announce task now) := by simp [getTask_putTask]
  have settled := loop_settles host (ledger.putTask (announce task now)) (announce task now) now row
  have frees := frees_steady steady task.taskId
  have reaches := reaches_congr task.taskId links frees
  simp only [sameId] at settled
  simp only [handleTaskCompletion, found]
  refine ⟨steady.trans ?_ settled.2.1, ?_⟩
  · intro a b c first second
    have named := first.cascaded.taskId
    refine ⟨first.cascaded.trans a b c second.cascaded, ?_, ?_⟩
    · intro reached
      have last := second.reached (named ▸ (reaches a.taskId).mpr reached)
      rw [first.blockedBy, first.status, first.waits] at last
      exact last
    · intro spared
      have last := second.spared (named ▸ mt (reaches a.taskId).mp spared)
      rw [first.blockedBy, first.status] at last
      exact last
  · intro taskId
    rw [settled.2.2, reaches, frees]

def heldForOther (task : Task) : Bool :=
  match task.blockedReason with
  | none => false
  | some reason => reason ∈
      [BlockedReason.inputRequired, .approvalRequired, .resourceUnavailable, .rateLimited,
        .externalService, .manualBlock].map BlockedReason.value

def childOf (parent child : Task) : Bool :=
  decide (child.parentTaskId = some parent.taskId) || decide (child.taskId ∈ parent.childTaskIds)

structure MayRun (ledger : SmartLedger) (task : Task) : Prop where
  prerequisites : ∀ taskId ∈ task.prerequisites, ledger.statusOf taskId = some .completed
  blockedBy : task.blockedBy = []
  reason : heldForOther task = false
  children : ∀ child ∈ ledger.tasks.rows, childOf task child = true → isResolved child.status = true

instance (ledger : SmartLedger) (task : Task) : Decidable (MayRun ledger task) :=
  decidable_of_iff
    ((∀ taskId ∈ task.prerequisites, ledger.statusOf taskId = some .completed) ∧
      task.blockedBy = [] ∧ heldForOther task = false ∧
      ∀ child ∈ ledger.tasks.rows, childOf task child = true → isResolved child.status = true)
    ⟨fun ⟨prerequisites, blockedBy, reason, children⟩ =>
      ⟨prerequisites, blockedBy, reason, children⟩,
      fun may => ⟨may.prerequisites, may.blockedBy, may.reason, may.children⟩⟩

structure WaitsOnlyFor (ledger : SmartLedger) (completedId : TaskId) (task : Task) : Prop where
  prerequisites : ∀ taskId ∈ task.prerequisites,
    taskId = completedId ∨ ledger.statusOf taskId = some .completed
  reason : heldForOther task = false
  children : ∀ child ∈ ledger.tasks.rows, childOf task child = true →
    child.taskId = completedId ∨ isResolved child.status = true

structure Visit where
  before : SmartLedger
  taskId : TaskId
  after : SmartLedger

def completionVisits (host : Host) (ledger : SmartLedger) (taskId : TaskId) (now : Time) :
    List Visit :=
  match ledger.getTask taskId with
  | none => []
  | some task =>
      let announced := ledger.putTask (announce task now)
      let direct := (announced.completionDependencyIds host (announce task now)).1
      (Worklist.visits (visitDependent taskId direct now) (announced.walkFuel direct) direct []
        (announced, [])).map fun entry =>
          ⟨entry.1.1, entry.2, (visitDependent taskId direct now entry.1 entry.2).1.1⟩

def ResumesJustified (visits : List Visit) : Prop :=
  ∀ visit ∈ visits, visit.before.statusOf visit.taskId = some .blocked →
    ∀ task ∈ visit.after.getTask visit.taskId, task.status ≠ .blocked →
      MayRun visit.after task

instance (visits : List Visit) : Decidable (ResumesJustified visits) :=
  inferInstanceAs (Decidable (∀ visit ∈ visits, _))

theorem visit_settles (found : ledger.getTask task.taskId = some task) (visit : Visit)
    (member : visit ∈ completionVisits host ledger task.taskId now) :
    Reaches ledger task.taskId visit.taskId ∧
      Reworked Cascaded ledger visit.after ∧
      ∀ waiting, ledger.getTask visit.taskId = some waiting →
        visit.before.statusOf visit.taskId = some waiting.status ∧
          ∃ row, visit.after.getTask visit.taskId = some row ∧
            row.blockedBy = waiting.blockedBy.erase task.taskId ∧
            row.status = if waitsOnlyOn task.taskId waiting then .inProgress else waiting.status := by
  have steady := announced_steady ledger task now found
  have links := (steady.mono fun _ _ row => row.cascaded.links).dependentsOf
  have sameId := (announce_cascaded task now).taskId
  have row : (ledger.putTask (announce task now)).getTask (announce task now).taskId =
      some (announce task now) := by simp [getTask_putTask]
  have begins := progress_start host (ledger.putTask (announce task now)) (announce task now) row
  have frees := frees_steady steady task.taskId
  have reaches := reaches_congr task.taskId links frees
  rw [sameId] at begins
  simp only [completionVisits, found, List.mem_map] at member
  obtain ⟨entry, walked, rfl⟩ := member
  obtain ⟨later, seen, fresh, progress⟩ := (Worklist.walk_rule _
    (Progress (ledger.putTask (announce task now)) task.taskId _)
    (fun _ _ _ _ old holds => holds.drop old) (fun _ _ _ _ fresh holds => holds.step fresh)
    _ _ _ _ begins).2 entry walked
  have next := @Progress.step _ _ _ _ _ _ _ now fresh progress
  have reached := (reaches entry.2).mp (progress.reached entry.2 (Or.inr List.mem_cons_self))
  refine ⟨reached, ?_, ?_⟩
  · exact steady.trans (fun a b c first second => first.cascaded.trans a b c second.cascaded)
      next.rows
  · intro waiting there
    obtain ⟨announced, found', same⟩ := steady.getTask_some entry.2 waiting there
    obtain ⟨current, here, kept⟩ := progress.unvisited fresh announced found'
    obtain ⟨new, after, settled⟩ := next.rows.getTask_some entry.2 announced found'
    have named := getTask_taskId _ entry.2 announced found'
    have blockedBy := settled.blockedBy
    have status := settled.status
    simp only [named, List.mem_cons, true_or, ↓reduceIte, true_and, same.waits, same.blockedBy,
      same.status] at blockedBy status
    exact ⟨by simp [statusOf, here, kept.status, same.status], new, after, blockedBy, status⟩

theorem visited_of_reaches (found : ledger.getTask task.taskId = some task) (taskId : TaskId)
    (reached : Reaches ledger task.taskId taskId) :
    ∃ visit ∈ completionVisits host ledger task.taskId now, visit.taskId = taskId := by
  have steady := announced_steady ledger task now found
  have links := (steady.mono fun _ _ row => row.cascaded.links).dependentsOf
  have row : (ledger.putTask (announce task now)).getTask (announce task now).taskId =
      some (announce task now) := by simp [getTask_putTask]
  have reaches := reaches_congr task.taskId links (frees_steady steady task.taskId)
  have settled := loop_settles host (ledger.putTask (announce task now)) (announce task now) now row
  simp only [(announce_cascaded task now).taskId] at settled
  have seen := (settled.1 taskId).mpr ((reaches taskId).mpr reached)
  rw [Worklist.mem_visited] at seen
  rcases seen with old | visited
  · cases old
  · obtain ⟨entry, member, rfl⟩ := List.mem_map.mp visited
    simp only [completionVisits, found]
    exact ⟨_, List.mem_map_of_mem member, rfl⟩

/-- The ledger in which `update_task_status` starts the completion cascade. -/
def recordCompletion (host : Host) (ledger : SmartLedger) (task : Task) (update : StatusUpdate)
    (now : Time) : SmartLedger :=
  ledger.putTask (completeFields host update.result
    (task.recordStateTransition .completed update.transitionReason now))

section Completion
variable {completedId : TaskId} {old new : Task}

section

variable (set : StatusSet completedId .completed old new)
include set

theorem StatusSet.completed_iff :
    new.status = .completed ↔ old.taskId = completedId ∨ old.status = .completed := by
  by_cases named : old.taskId = completedId
  · simp [named, set.named named]
  · rcases (set.others named).status with same | ⟨blocked, running⟩
    · simp [named, same]
    · simp [named, blocked, running]

theorem StatusSet.resolved_iff :
    isResolved new.status = true ↔ old.taskId = completedId ∨ isResolved old.status = true := by
  by_cases named : old.taskId = completedId
  · simp [named, set.named named, isResolved]
  · rcases (set.others named).status with same | ⟨blocked, running⟩
    · simp [named, same]
    · simp [named, blocked, running, isResolved]

theorem StatusSet.childOf {child grown : Task}
    (other : StatusSet completedId .completed child grown) :
    SmartLedger.childOf new grown = SmartLedger.childOf old child := by
  have parent : grown.parentTaskId = child.parentTaskId := (congrArg Task.parentTaskId other.frame :)
  have children : new.childTaskIds = old.childTaskIds := (congrArg Task.childTaskIds set.frame :)
  simp only [SmartLedger.childOf, parent, children, set.sameId, other.sameId]

end

/-- A released task may run exactly when it waited for the completed one alone. -/
theorem mayRun_iff {ledger after : SmartLedger} (task : Task)
    (found : ledger.getTask completedId = some task)
    (change : Reworked (StatusSet completedId .completed) ledger after)
    (set : StatusSet completedId .completed old new) (free : new.blockedBy = []) :
    MayRun after new ↔ WaitsOnlyFor ledger completedId old := by
  have prerequisites : new.prerequisites = old.prerequisites :=
    (congrArg Task.prerequisites set.frame :)
  have reason : heldForOther new = heldForOther old := by
    have same : new.blockedReason = old.blockedReason := (congrArg Task.blockedReason set.frame :)
    simp only [heldForOther, same]
  have finished (id : TaskId) : after.statusOf id = some .completed ↔
      id = completedId ∨ ledger.statusOf id = some .completed := by
    cases looked : ledger.getTask id with
    | none =>
      have different : id ≠ completedId := by
        rintro rfl
        rw [found] at looked
        cases looked
      simp [statusOf, looked, change.getTask_none id looked, different]
    | some before =>
      obtain ⟨row, there, stage⟩ := change.getTask_some id before looked
      have named := ledger.getTask_taskId id before looked
      simp [statusOf, looked, there, stage.completed_iff, named]
  constructor
  · rintro ⟨met, _, notHeld, children⟩
    refine ⟨?_, reason ▸ notHeld, ?_⟩
    · intro id member
      exact (finished id).mp (met id (prerequisites ▸ member))
    · intro child member linked
      obtain ⟨row, there, stage⟩ := change.getTask_some child.taskId child
        (Table.mem_get? ledger.tasks child member)
      exact stage.resolved_iff.mp (children row (Table.get?_mem after.tasks _ row there)
        ((set.childOf stage).trans linked))
  · rintro ⟨met, notHeld, children⟩
    refine ⟨?_, free, reason.trans notHeld, ?_⟩
    · intro id member
      exact (finished id).mpr (met id (prerequisites ▸ member))
    · intro row member linked
      obtain ⟨child, there, stage⟩ := change.getTask_origin row.taskId row
        (Table.mem_get? after.tasks row member)
      exact stage.resolved_iff.mpr (children child (Table.get?_mem ledger.tasks _ child there)
        ((set.childOf stage).symm.trans linked))

end Completion

theorem completion_admitted (taskId : TaskId) (task : Task) (update : StatusUpdate) (now : Time)
    (found : ledger.getTask taskId = some task) (completing : update.status = .completed)
    (success : (ledger.updateTaskStatus host taskId update now).1 = true) :
    task.validateTransition .completed = true := by
  by_contra refused
  simp only [updateTaskStatus, found, completing, refused, ↓reduceIte] at success
  split at success <;> cases success

theorem not_blocked_of_admitted (admitted : task.validateTransition .completed = true) :
    task.status ≠ .blocked := by
  intro blocked
  simp only [Task.validateTransition, Task.transitionRefusal, blocked] at admitted
  revert admitted
  decide

/-! A completed row `done` in the place of the task, before the loop starts. -/

section Recorded
variable {ledger : SmartLedger} {task done : Task}

section

variable (found : ledger.getTask task.taskId = some task) (sameId : done.taskId = task.taskId)
  (status : done.status = .completed)
include found sameId status

theorem putDone_frees (running : task.status ≠ .blocked) (taskId : TaskId) :
    Frees (ledger.putTask done) task.taskId taskId ↔ Frees ledger task.taskId taskId := by
  by_cases same : task.taskId = taskId
  · subst same
    have there : (ledger.putTask done).getTask task.taskId = some done := by
      rw [getTask_putTask, if_pos sameId]
    rw [frees_iff there, frees_iff found]
    simp [waitsOnlyOn, status, running]
  · have other : (ledger.putTask done).getTask taskId = ledger.getTask taskId := by
      rw [getTask_putTask, if_neg fun named => same (sameId.symm.trans named)]
    simp only [Frees, other]

theorem putDone_set (frame : statusFrame done = statusFrame task) :
    Reworked (StatusSet task.taskId .completed) ledger (ledger.putTask done) :=
  (recorded_staged ledger task done .completed [task.taskId] found (by simp) sameId frame
    status).mono fun _ _ row => row.set

theorem putDone_reaches (frame : statusFrame done = statusFrame task)
    (running : task.status ≠ .blocked) (taskId : TaskId) :
    Reaches (ledger.putTask done) task.taskId taskId ↔ Reaches ledger task.taskId taskId := by
  have set := putDone_set found sameId status frame
  have links := (set.mono fun _ _ row => SameLinks.of_statusFrame row.frame).dependentsOf
  exact reaches_congr task.taskId links (putDone_frees found sameId status running) taskId

end

/-- A visit to a task that waits only on the completed one: it is moved out of
BLOCKED, and may run then exactly when it waited for nothing else. -/
theorem visit_releases (host : Host) (now : Time) (found : ledger.getTask task.taskId = some task)
    (sameId : done.taskId = task.taskId) (status : done.status = .completed)
    (frame : statusFrame done = statusFrame task) (running : task.status ≠ .blocked)
    (visit : Visit)
    (member : visit ∈ completionVisits host (ledger.putTask done) task.taskId now)
    (waiting : Task) (there : ledger.getTask visit.taskId = some waiting)
    (waits : waitsOnlyOn task.taskId waiting = true) :
    visit.before.statusOf visit.taskId = some .blocked ∧
      ∃ row, visit.after.getTask visit.taskId = some row ∧ row.status = .inProgress ∧
        (MayRun visit.after row ↔ WaitsOnlyFor ledger task.taskId waiting) := by
  have row : (ledger.putTask done).getTask done.taskId = some done := by simp [getTask_putTask]
  have set := putDone_set found sameId status frame
  obtain ⟨held, found', waits'⟩ :=
    (putDone_frees found sameId status running visit.taskId).mpr ⟨waiting, there, waits⟩
  rw [← sameId] at member
  have settled := visit_settles host (ledger.putTask done) done now row visit member
  obtain ⟨before, new, after, blockedBy, released⟩ := settled.2.2 held found'
  have change : Reworked (StatusSet task.taskId .completed) ledger visit.after :=
    set.trans (fun _ _ _ first second => first.cascade (by decide) second) settled.2.1
  obtain ⟨new', after', last⟩ := change.getTask_some visit.taskId waiting there
  have same : new = new' := Option.some.inj (after.symm.trans after')
  subst same
  rw [sameId] at blockedBy released
  simp only [waitsOnlyOn, Bool.and_eq_true, decide_eq_true_eq, List.isEmpty_iff] at waits'
  refine ⟨by rw [before, waits'.1], new, after, ?_, ?_⟩
  · simp [released, waitsOnlyOn, waits']
  · exact mayRun_iff task found change last (blockedBy.trans waits'.2)

end Recorded

/-- The tasks a recorded completion sets going may all run at that moment, exactly
when every task the loop reaches and finds with no other blocker on its list was
waiting for the completed task alone. -/
theorem resumes_justified_iff (host : Host) (ledger : SmartLedger) (taskId : TaskId) (task : Task)
    (update : StatusUpdate) (now : Time) (found : ledger.getTask taskId = some task)
    (completing : update.status = .completed)
    (success : (ledger.updateTaskStatus host taskId update now).1 = true) :
    ResumesJustified
        (completionVisits host (recordCompletion host ledger task update now) taskId now) ↔
      ∀ id waiting, Reaches ledger taskId id → ledger.getTask id = some waiting →
        waitsOnlyOn taskId waiting = true → WaitsOnlyFor ledger taskId waiting := by
  have running := not_blocked_of_admitted task
    (completion_admitted host ledger taskId task update now found completing success)
  have named := ledger.getTask_taskId taskId task found
  subst named
  have keeps := completeFields_keeps host update.result
    (task.recordStateTransition .completed update.transitionReason now)
  unfold recordCompletion
  generalize completeFields host update.result
    (task.recordStateTransition .completed update.transitionReason now) = done at keeps ⊢
  have sameId : done.taskId = task.taskId := keeps.2.2
  have frame : statusFrame done = statusFrame task := keeps.1
  have status : done.status = .completed := keeps.2.1
  have row : (ledger.putTask done).getTask done.taskId = some done := by simp [getTask_putTask]
  have reaches := putDone_reaches found sameId status frame running
  constructor
  · intro justified id waiting reached there waits
    obtain ⟨visit, member, rfl⟩ := visited_of_reaches host (ledger.putTask done) done now row id
      (sameId.symm ▸ (reaches id).mpr reached)
    rw [sameId] at member
    obtain ⟨blocked, new, after, moved, iff⟩ := visit_releases host now found sameId status frame
      running visit member waiting there waits
    exact iff.mp (justified visit member blocked new after (by simp [moved]))
  · intro only visit member blocked new after moved
    have settled := visit_settles host (ledger.putTask done) done now row visit
      (sameId.symm ▸ member)
    obtain ⟨held, found', _⟩ := settled.2.1.getTask_origin visit.taskId new after
    obtain ⟨before, new', after', _, released⟩ := settled.2.2 held found'
    have same : new = new' := Option.some.inj (after.symm.trans after')
    subst same
    rw [before, Option.some.injEq] at blocked
    -- Only a visit that finds nothing else on the list moves a BLOCKED task.
    have waits : waitsOnlyOn task.taskId held = true := by
      by_contra other
      rw [sameId, if_neg other] at released
      exact moved (released.trans blocked)
    obtain ⟨waiting, there, free⟩ :=
      (putDone_frees found sameId status running visit.taskId).mp ⟨held, found', waits⟩
    have reached := (reaches visit.taskId).mp (sameId ▸ settled.1)
    obtain ⟨_, new', after', _, iff⟩ := visit_releases host now found sameId status frame
      running visit member waiting there free
    have same : new = new' := Option.some.inj (after.symm.trans after')
    subst same
    exact iff.mpr (only visit.taskId waiting reached there free)

/-! Two tasks, the second blocked and waiting for the first. -/

def workingTask : Task := { sampleTask "a" .inProgress with dependentTaskIds := ["b"] }

def waitingTask : Task :=
  { sampleTask "b" .blocked with prerequisites := ["a"], blockedBy := ["a"] }

theorem waiting_task_justified :
    ResumesJustified (completionVisits sampleHost
      (recordCompletion sampleHost (sampleLedger [workingTask, waitingTask] .accepted) workingTask
        { status := .completed } 5) "a" 5) := by
  refine (resumes_justified_iff sampleHost (sampleLedger [workingTask, waitingTask] .accepted) "a"
    workingTask { status := .completed } 5 rfl rfl (by decide)).mpr ?_
  intro id waiting _ found waits
  have member := Table.get?_mem _ id waiting found
  rcases List.mem_cons.mp member with running | later
  · subst running
    exact absurd waits (by decide)
  · rw [List.mem_singleton.mp later]
    exact ⟨by decide, by decide, by decide⟩

/-- The ledger after the second task, while it ran, was blocked for input the way
`hold_task` blocks it. -/
def heldLedger : SmartLedger :=
  ((sampleLedger [workingTask, { sampleTask "b" .inProgress with prerequisites := ["a"] }]
      .accepted).updateTaskStatus sampleHost "b"
      { status := .blocked, errorMessage := some "need the code word" } 3).2.modifyTask "b"
    (·.setBlockedReason (some BlockedReason.inputRequired.value) 3)

theorem held_task_resumed :
    let outcome := heldLedger.updateTaskStatus sampleHost "a" { status := .completed } 5
    heldLedger.getTask "a" = some workingTask ∧ outcome.1 = true ∧
      heldLedger.statusOf "b" = some .blocked ∧ outcome.2.statusOf "b" = some .inProgress ∧
      (outcome.2.getTask "b").map Task.blockedReason = some (some "input_required") ∧
      ¬ ResumesJustified (completionVisits sampleHost
        (recordCompletion sampleHost heldLedger workingTask { status := .completed } 5) "a" 5) := by
  decide

end Hartos.SmartLedger
