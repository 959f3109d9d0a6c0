import Hartos.AutoResume
import Hartos.CallTree
import Hartos.LedgerRuns

/-!
Where the cascade of `cancel_task` ends and what it has done then. It recurses over
the tasks that name the cancelled one as a prerequisite, looking neither at what it
has visited nor at the answer of the status update.
-/
namespace Hartos.SmartLedger
open TaskStatus KeyedTable

/-- `id` transitively has `taskId` as a prerequisite. -/
def DependsOn (ledger : SmartLedger) : TaskId → TaskId → Prop :=
  Relation.TransGen fun taskId id => id ∈ ledger.reversePrerequisites taskId

def cancelUpdate : StatusUpdate := { status := .cancelled }

def cancellable (ledger : SmartLedger) (taskId : TaskId) : Bool :=
  match ledger.getTask taskId with
  | none => false
  | some task => task.validateTransition .cancelled

def cancelOne (host : Host) (now : Time) (ledger : SmartLedger) (taskId : TaskId) : SmartLedger :=
  (ledger.updateTaskStatus host taskId cancelUpdate now).2

/-- How a row stands once the ids of `done` were cancelled. -/
structure CancelledRow (done : List TaskId) (old new : Task) : Prop where
  sameId : new.taskId = old.taskId
  links : SameLinks old new
  status : new.status = if old.taskId ∈ done then .cancelled else old.status

structure Settling where
  done : List TaskId
  writes : Nat

def settle (wants : TaskId → Bool) (verdict : Nat → Verdict) (settling : Settling)
    (taskId : TaskId) : Settling :=
  if wants taskId ∧ taskId ∉ settling.done then
    { done :=
        if verdict settling.writes = .accepted then taskId :: settling.done else settling.done
      writes := settling.writes + 1 }
  else settling

def settled (ledger : SmartLedger) (turns : List TaskId) : List TaskId :=
  (turns.foldl (settle ledger.cancellable ledger.backend.verdict) ⟨[], ledger.backend.writes⟩).done

structure Cancelling (start : SmartLedger) (settling : Settling) (current : SmartLedger) :
    Prop where
  rows : Table.Evolves (CancelledRow settling.done) start.tasks current.tasks
  verdict : current.backend.verdict = start.backend.verdict
  writes : current.backend.writes = settling.writes

variable (cancel : SmartLedger → TaskId → Option Bool × SmartLedger) (ids : List TaskId)
  (host : Host) (now : Time) (stack : Nat) (ledger : SmartLedger) (turns : List TaskId)
  (taskId : TaskId)

theorem cancellable_iff :
    ledger.cancellable taskId = true ↔
      ∃ task, ledger.getTask taskId = some task ∧ task.validateTransition .cancelled = true := by
  unfold cancellable
  cases ledger.getTask taskId <;> simp

theorem cancellable_status :
    ledger.cancellable taskId = true ↔
      ∃ status, ledger.statusOf taskId = some status ∧
        (transitionRefusalBetween status .cancelled).isNone = true := by
  unfold cancellable statusOf
  cases ledger.getTask taskId <;> simp [Task.validateTransition, Task.transitionRefusal]

theorem cancelOne_refused (refused : ledger.cancellable taskId = false) :
    ledger.cancelOne host now taskId = ledger := by
  have ends := updateTaskStatus_refused host ledger taskId cancelUpdate now fun task found => by
    show task.validateTransition .cancelled = false
    simpa [cancellable, found] using refused
  rw [cancelOne, ends]

theorem cancelOne_accepted (wanted : ledger.cancellable taskId = true)
    (accepted : ledger.backend.next = .accepted) :
    Table.Evolves (StagedWithin taskId .cancelled [taskId]) ledger.tasks
        (ledger.cancelOne host now taskId).tasks ∧
      (ledger.cancelOne host now taskId).backend.verdict = ledger.backend.verdict ∧
      (ledger.cancelOne host now taskId).backend.writes = ledger.backend.writes + 1 := by
  obtain ⟨task, found, valid⟩ := (ledger.cancellable_iff taskId).mp wanted
  have named := ledger.getTask_taskId taskId task found
  subst named
  have staged := stageStatus_staged host ledger task cancelUpdate now found
  have ends := updateTaskStatus_done host ledger task cancelUpdate now found rfl valid accepted
  have whole : ledger.cancelOne host now task.taskId =
      (stageStatus host ledger task cancelUpdate now).1.save.2 := by
    rw [cancelOne, ends]
    rfl
  rw [whole]
  simp only [save, Backend.save, staged.backend, and_true]
  exact staged.rows

theorem cancelOne_unsaved (wanted : ledger.cancellable taskId = true)
    (refused : ledger.backend.next ≠ .accepted) :
    (ledger.cancelOne host now taskId).tasks = ledger.tasks ∧
      (ledger.cancelOne host now taskId).backend.verdict = ledger.backend.verdict ∧
      (ledger.cancelOne host now taskId).backend.writes = ledger.backend.writes + 1 := by
  obtain ⟨task, found, valid⟩ := (ledger.cancellable_iff taskId).mp wanted
  have named := ledger.getTask_taskId taskId task found
  subst named
  have staged := stageStatus_staged host ledger task cancelUpdate now found
  have ends := updateTaskStatus_undone host ledger task cancelUpdate now found rfl valid refused
  rw [cancelOne, ends]
  simp only [save, Backend.save, staged.backend, and_true]

theorem cancel_answer :
    (ledger.updateTaskStatus host taskId cancelUpdate now).1 = true ↔
      ledger.cancellable taskId = true ∧ ledger.backend.next = .accepted := by
  cases wanted : ledger.cancellable taskId with
  | false =>
    have ends := updateTaskStatus_refused host ledger taskId cancelUpdate now fun task found => by
      show task.validateTransition .cancelled = false
      simpa [cancellable, found] using wanted
    simp [ends]
  | true =>
    obtain ⟨task, found, valid⟩ := (ledger.cancellable_iff taskId).mp wanted
    have named := ledger.getTask_taskId taskId task found
    subst named
    by_cases accepted : ledger.backend.next = .accepted
    · simp [updateTaskStatus_done host ledger task cancelUpdate now found rfl valid accepted,
        accepted]
    · simp [updateTaskStatus_undone host ledger task cancelUpdate now found rfl valid accepted,
        accepted]

section Turns
variable {start current : SmartLedger} {settling : Settling}

theorem Cancelling.begin (start : SmartLedger) :
    Cancelling start ⟨[], start.backend.writes⟩ start :=
  ⟨Table.Evolves.refl (fun _ => ⟨rfl, ⟨rfl, rfl⟩, by simp⟩) start.tasks, rfl, rfl⟩

theorem Cancelling.statusOf (stands : Cancelling start settling current) (taskId : TaskId) :
    current.statusOf taskId =
      if taskId ∈ settling.done then (start.statusOf taskId).map fun _ => .cancelled
      else start.statusOf taskId := by
  unfold SmartLedger.statusOf getTask
  cases found : start.tasks.get? taskId with
  | none =>
    have absent : current.tasks.get? taskId = none := by
      cases looked : current.tasks.get? taskId with
      | none => rfl
      | some new =>
        obtain ⟨old, there, _⟩ := stands.rows.get?_origin taskId new looked
        rw [found] at there
        cases there
    simp [absent]
  | some old =>
    obtain ⟨new, there, row⟩ := stands.rows.get?_some taskId old found
    have named : old.taskId = taskId := start.getTask_taskId taskId old found
    simp only [there, Option.map_some, row.status, named]
    split <;> rfl

-- A task that was cancelled is not cancelled twice; the others stand as at the start.
theorem Cancelling.cancellable (stands : Cancelling start settling current) (taskId : TaskId) :
    current.cancellable taskId = true ↔
      start.cancellable taskId = true ∧ taskId ∉ settling.done := by
  rw [cancellable_status, cancellable_status, stands.statusOf taskId]
  by_cases done : taskId ∈ settling.done
  · cases start.statusOf taskId with
    | none => simp
    | some status =>
      have final : transitionRefusalBetween .cancelled .cancelled ≠ none := by decide
      simpa [done] using final
  · simp [done]

theorem Cancelling.turn (host : Host) (now : Time) (stands : Cancelling start settling current)
    (taskId : TaskId) :
    Cancelling start (settle start.cancellable start.backend.verdict settling taskId)
      (current.cancelOne host now taskId) := by
  by_cases wanted : start.cancellable taskId = true ∧ taskId ∉ settling.done
  · have here : current.cancellable taskId = true := (stands.cancellable taskId).mpr wanted
    have answer : current.backend.next = start.backend.verdict settling.writes := by
      rw [Backend.next, stands.verdict, stands.writes]
    rw [settle, if_pos wanted, ← answer]
    by_cases accepted : current.backend.next = .accepted
    · obtain ⟨rows, verdict, writes⟩ := cancelOne_accepted host now current taskId here accepted
      rw [if_pos accepted]
      refine ⟨stands.rows.trans ?_ rows, verdict.trans stands.verdict, ?_⟩
      case refine_2 => rw [writes, stands.writes]
      intro old middle new first second
      have links := SameLinks.of_statusFrame second.set.frame
      apply CancelledRow.mk (second.set.sameId.trans first.sameId)
        ⟨links.1.trans first.links.1, links.2.trans first.links.2⟩
      by_cases named : old.taskId = taskId
      · simp [named, second.set.named (first.sameId.trans named)]
      · have kept := second.outside (by simpa [first.sameId] using named)
        simp [kept, first.status, named]
    · obtain ⟨rows, verdict, writes⟩ := cancelOne_unsaved host now current taskId here accepted
      rw [if_neg accepted]
      exact ⟨rows ▸ stands.rows, verdict.trans stands.verdict, by rw [writes, stands.writes]⟩
  · have refused : current.cancellable taskId = false := by
      simpa using fun here => wanted ((stands.cancellable taskId).mp here)
    rw [settle, if_neg wanted, cancelOne_refused host now current taskId refused]
    exact stands

/-- After any turns the tasks stand as settled from the start. -/
theorem cancelling_turns (host : Host) (now : Time) (start : SmartLedger) (turns : List TaskId)
    (settling : Settling) (current : SmartLedger) (stands : Cancelling start settling current) :
    Cancelling start (turns.foldl (settle start.cancellable start.backend.verdict) settling)
      (turns.foldl (cancelOne host now) current) := by
  induction turns generalizing settling current with
  | nil => exact stands
  | cons taskId rest ih => exact ih _ _ (stands.turn host now taskId)

end Turns

theorem statusOf_turns (start : SmartLedger) (turns : List TaskId) (taskId : TaskId) :
    (turns.foldl (cancelOne host now) start).statusOf taskId =
      if taskId ∈ start.settled turns then (start.statusOf taskId).map fun _ => .cancelled
      else start.statusOf taskId :=
  (cancelling_turns host now start turns _ start (Cancelling.begin start)).statusOf taskId
variable (wants : TaskId → Bool) (verdict : Nat → Verdict) {start current : SmartLedger}

theorem settle_grows (turns : List TaskId) (settling : Settling) (taskId : TaskId)
    (done : taskId ∈ settling.done) :
    taskId ∈ (turns.foldl (settle wants verdict) settling).done := by
  induction turns generalizing settling with
  | nil => exact done
  | cons first rest ih =>
    apply ih
    unfold settle
    split
    · split
      · exact List.mem_cons_of_mem _ done
      · exact done
    · exact done

/-- The first turn settles its task when the table and the backend agree to it. -/
theorem settled_first (rest : List TaskId) (wanted : ledger.cancellable taskId = true)
    (accepted : ledger.backend.next = .accepted) : taskId ∈ ledger.settled (taskId :: rest) := by
  have answer : ledger.backend.verdict ledger.backend.writes = .accepted := accepted
  have first : settle ledger.cancellable ledger.backend.verdict ⟨[], ledger.backend.writes⟩ taskId =
      ⟨[taskId], ledger.backend.writes + 1⟩ := by
    simp [settle, wanted, answer]
  rw [settled, List.foldl_cons, first]
  exact settle_grows _ _ rest _ taskId List.mem_cons_self

/-- The states a cascade over `start` passes through. -/
def Underway (start current : SmartLedger) : Prop :=
  ∃ settling, Cancelling start settling current

theorem Underway.reversePrerequisites (underway : Underway start current) :
    current.reversePrerequisites = start.reversePrerequisites := by
  obtain ⟨settling, stands⟩ := underway
  funext taskId
  have links : Reworked SameLinks start { start with tasks := current.tasks } :=
    ⟨stands.rows.mono fun _ _ row => row.links, rfl⟩
  exact links.reversePrerequisites taskId

theorem Underway.present (underway : Underway start current) (taskId : TaskId) (task : Task)
    (found : start.getTask taskId = some task) : ∃ now, current.getTask taskId = some now := by
  obtain ⟨settling, stands⟩ := underway
  obtain ⟨new, there, _⟩ := stands.rows.get?_some taskId task found
  exact ⟨new, there⟩

theorem Underway.cancelOne {start : SmartLedger} (current : SmartLedger) (taskId : TaskId)
    (underway : Underway start current) : Underway start (current.cancelOne host now taskId) := by
  obtain ⟨settling, stands⟩ := underway
  exact ⟨_, stands.turn host now taskId⟩

theorem reversePrerequisites_present (taskId id : TaskId)
    (member : id ∈ ledger.reversePrerequisites taskId) : ∃ task, ledger.getTask id = some task := by
  obtain ⟨task, among, named⟩ := List.mem_map.mp member
  exact ⟨task, named ▸ Table.mem_get? ledger.tasks task (List.mem_of_mem_filter among)⟩

def ended (outcome : Option Bool × SmartLedger) : Option SmartLedger :=
  outcome.1.map fun _ => outcome.2

theorem cancelEach_ended :
    ended (cancelEach cancel ids ledger) =
      ids.foldlM (fun current id => ended (cancel current id)) ledger := by
  induction ids generalizing ledger with
  | nil => rfl
  | cons id rest ih =>
    rw [cancelEach, List.foldlM_cons]
    cases called : cancel ledger id with
    | mk answer after =>
      cases answer with
      | none => rfl
      | some _ => exact ih after

theorem cancelEach_true (answer : Bool) (told : (cancelEach cancel ids ledger).1 = some answer) :
    answer = true := by
  induction ids generalizing ledger with
  | nil => exact (Option.some.inj told).symm
  | cons id rest ih =>
    rw [cancelEach] at told
    cases called : cancel ledger id with
    | mk first after =>
      rw [called] at told
      cases first with
      | none => cases told
      | some _ => exact ih after told

theorem cancelTask_step (current : SmartLedger) (taskId : TaskId) (task : Task)
    (present : current.getTask taskId = some task) :
    cancelTask host now true (stack + 1) current taskId =
      cancelEach (cancelTask host now true stack)
        ((current.cancelOne host now taskId).reversePrerequisites taskId)
        (current.cancelOne host now taskId) := by
  simp only [cancelTask, present, if_true]
  rfl

/-- A cascade is the cancellations of its turns, in order, as far as it ends. -/
theorem cancelTask_turns (start : SmartLedger) (stack : Nat) (current : SmartLedger)
    (underway : Underway start current) (taskId : TaskId) (task : Task)
    (found : start.getTask taskId = some task) :
    ended (cancelTask host now true stack current taskId) =
      (CallTree.calls start.reversePrerequisites stack taskId).map fun turns =>
        turns.foldl (cancelOne host now) current := by
  induction stack generalizing current taskId task with
  | zero => rfl
  | succ stack ih =>
    obtain ⟨here, present⟩ := underway.present taskId task found
    have visited := underway.cancelOne host now current taskId
    have below := CallTree.foldlM_parts (cancelOne host now) (Underway start)
      (fun state id kept => kept.cancelOne host now state id)
      (fun state id => ended (cancelTask host now true stack state id))
      (CallTree.calls start.reversePrerequisites stack) (start.reversePrerequisites taskId)
      (fun id member state kept => by
        obtain ⟨dependent, there⟩ := start.reversePrerequisites_present taskId id member
        exact ih state kept id dependent there)
      (current.cancelOne host now taskId) visited
    rw [cancelTask_step host now stack current taskId here present, cancelEach_ended,
      visited.reversePrerequisites, below, CallTree.calls, Option.map_map]
    rfl

-- An end is reported as success, whatever became of the cancellations.
theorem cancelTask_true (task : Task) (found : ledger.getTask taskId = some task) (answer : Bool)
    (told : (cancelTask host now true stack ledger taskId).1 = some answer) : answer = true := by
  cases stack with
  | zero => cases told
  | succ stack =>
    rw [cancelTask_step host now stack ledger taskId task found] at told
    exact cancelEach_true _ _ _ answer told

theorem settled_cancellable (turns : List TaskId) (settling : Settling)
    (sound : ∀ id ∈ settling.done, wants id = true) :
    ∀ id ∈ (turns.foldl (settle wants verdict) settling).done, wants id = true := by
  induction turns generalizing settling with
  | nil => exact sound
  | cons taskId rest ih =>
    apply ih
    unfold settle
    split
    · next wanted =>
        split
        · exact List.forall_mem_cons.mpr ⟨wanted.1, sound⟩
        · exact sound
    · exact sound

def Finished (ledger : SmartLedger) (taskId : TaskId) : Prop :=
  ∃ status, ledger.statusOf taskId = some status ∧ isTerminalState status = true

/-- Success means the task and all that depends on it are cancelled or were over;
a task that cannot be cancelled is no success and takes no dependent with it. -/
structure CancelsRightly (host : Host) (now : Time) (ledger : SmartLedger) (taskId : TaskId)
    (answer : Bool) (after : SmartLedger) : Prop where
  success : answer = true → after.statusOf taskId = some .cancelled ∧
    ∀ id, ledger.DependsOn taskId id → after.statusOf id = some .cancelled ∨ ledger.Finished id
  refusal : (ledger.updateTaskStatus host taskId cancelUpdate now).1 = false →
    answer = false ∧ ∀ id, ledger.DependsOn taskId id →
      after.statusOf id = some .cancelled → ledger.statusOf id = some .cancelled

structure Cascades (ledger : SmartLedger) (taskId : TaskId) : Prop where
  acyclic : Acc (CallTree.Follows ledger.reversePrerequisites) taskId
  cancellable : ledger.cancellable taskId = true
  saved : ledger.backend.next = .accepted
  dependents : ∀ id, ledger.DependsOn taskId id → ledger.Finished id ∨
    ledger.cancellable id = true ∧ ∃ fuel turns,
      CallTree.calls ledger.reversePrerequisites fuel taskId = some turns ∧
        id ∈ ledger.settled turns

theorem cancelled_finished (cancelled : ledger.statusOf taskId = some .cancelled) :
    ledger.Finished taskId :=
  ⟨.cancelled, cancelled, rfl⟩

theorem cancellable_present (wanted : ledger.cancellable taskId = true) :
    ∃ status, ledger.statusOf taskId = some status := by
  obtain ⟨status, found, _⟩ := (ledger.cancellable_status taskId).mp wanted
  exact ⟨status, found⟩

theorem cancelled_turns
    (cancelled : (turns.foldl (cancelOne host now) ledger).statusOf taskId = some .cancelled) :
    ledger.statusOf taskId = some .cancelled ∨ taskId ∈ ledger.settled turns := by
  rw [statusOf_turns] at cancelled
  split at cancelled
  · next settled => exact .inr settled
  · exact .inl cancelled

theorem settled_turns (settled : taskId ∈ ledger.settled turns) :
    (turns.foldl (cancelOne host now) ledger).statusOf taskId = some .cancelled := by
  have wanted := settled_cancellable _ _ turns _ (by simp) taskId settled
  obtain ⟨status, found⟩ := ledger.cancellable_present taskId wanted
  rw [statusOf_turns, if_pos settled, found, Option.map_some]

/-- A cascade ends, and does what it owes, exactly where the task is absent, or no
prerequisite cycle is above it and every task concerned can be cancelled and saved. -/
theorem cancels_rightly_iff (host : Host) (now : Time) (ledger : SmartLedger) (taskId : TaskId) :
    (∃ stack answer after,
      cancelTask host now true stack ledger taskId = (some answer, after) ∧
        CancelsRightly host now ledger taskId answer after) ↔
    (ledger.getTask taskId = none ∨ Cascades ledger taskId) := by
  have start : Underway ledger ledger := ⟨_, Cancelling.begin ledger⟩
  constructor
  · rintro ⟨stack, answer, after, called, rightly⟩
    cases found : ledger.getTask taskId with
    | none => exact .inl rfl
    | some task =>
      have claimed : answer = true :=
        cancelTask_true host now stack ledger taskId task found answer (by rw [called])
      subst claimed
      have whole := cancelTask_turns host now ledger stack ledger start taskId task found
      rw [called] at whole
      obtain ⟨turns, order, left⟩ := Option.map_eq_some_iff.mp whole.symm
      subst left
      have agreed : (ledger.updateTaskStatus host taskId cancelUpdate now).1 = true := by
        by_contra refused
        exact Bool.noConfusion (rightly.refusal (by simpa using refused)).1
      obtain ⟨wanted, accepted⟩ := (cancel_answer host now ledger taskId).mp agreed
      apply Or.inr
      constructor
      · exact (CallTree.calls_end_iff _ taskId).mp ⟨stack, turns, order⟩
      · exact wanted
      · exact accepted
      · intro id depends
        rcases (rightly.success rfl).2 id depends with cancelled | finished
        · rcases cancelled_turns host now ledger turns id cancelled with before | settled
          · exact .inl (ledger.cancelled_finished id before)
          · exact .inr ⟨settled_cancellable _ _ turns _ (by simp) id settled,
              stack, turns, order, settled⟩
        · exact .inl finished
  · rintro (absent | cascades)
    · refine ⟨1, false, ledger, by simp [cancelTask, absent], ⟨Bool.noConfusion, fun _ => ?_⟩⟩
      exact ⟨rfl, fun id _ cancelled => cancelled⟩
    · obtain ⟨task, found, -⟩ := (ledger.cancellable_iff taskId).mp cascades.cancellable
      obtain ⟨stack, turns, order⟩ := (CallTree.calls_end_iff _ taskId).mpr cascades.acyclic
      obtain ⟨rest, opened⟩ := CallTree.calls_head _ stack taskId turns order
      have first : taskId ∈ ledger.settled turns :=
        opened ▸ ledger.settled_first taskId rest cascades.cancellable cascades.saved
      have whole := cancelTask_turns host now ledger stack ledger start taskId task found
      rw [order, Option.map_some] at whole
      obtain ⟨answer, told, left⟩ := Option.map_eq_some_iff.mp whole
      have claimed := cancelTask_true host now stack ledger taskId task found answer told
      subst claimed
      refine ⟨stack, true, turns.foldl (cancelOne host now) ledger, Prod.ext told left, ?_, ?_⟩
      · intro _
        apply And.intro (settled_turns host now ledger turns taskId first)
        intro id depends
        rcases cascades.dependents id depends with finished | ⟨-, other, turns', again, settled⟩
        · exact .inr finished
        · have same := CallTree.calls_unique _ other stack taskId turns' turns again order
          exact .inl (settled_turns host now ledger turns id (same ▸ settled))
      · intro refused
        have agreed := (cancel_answer host now ledger taskId).mpr
          ⟨cascades.cancellable, cascades.saved⟩
        rw [agreed] at refused
        cases refused

def runningTasks : List Task :=
  [sampleTask "run" .inProgress, { sampleTask "next" .pending with prerequisites := ["run"] },
    { sampleTask "loop" .pending with prerequisites := ["loop"] }]

def runningLedger : SmartLedger := sampleLedger runningTasks .accepted

theorem loop_never_ends : (cancelTask sampleHost 5 true stack runningLedger "loop").1 = none := by
  have start : Underway runningLedger runningLedger := ⟨_, Cancelling.begin runningLedger⟩
  have own : runningLedger.reversePrerequisites "loop" = ["loop"] := by decide +kernel
  have endless (depth : Nat) :
      CallTree.calls runningLedger.reversePrerequisites depth "loop" = none := by
    induction depth with
    | zero => rfl
    | succ depth ih =>
      rw [CallTree.calls, own, List.mapM_cons, ih]
      rfl
  have whole := cancelTask_turns sampleHost 5 runningLedger stack runningLedger start "loop" _ rfl
  rw [endless stack, Option.map_none] at whole
  exact Option.map_eq_none_iff.mp whole

/-- The running task is not cancelled, the call says it was, and its dependent is;
the task that waits for itself is cancelled without end. -/
theorem running_task_cascades :
    ((cancelTask sampleHost 5 true 3 runningLedger "run").1 = some true ∧
      (cancelTask sampleHost 5 true 3 runningLedger "run").2.statusOf "run" = some .inProgress ∧
      (cancelTask sampleHost 5 true 3 runningLedger "run").2.statusOf "next" = some .cancelled) ∧
    (¬ ∃ stack answer after,
      cancelTask sampleHost 5 true stack runningLedger "run" = (some answer, after) ∧
        CancelsRightly sampleHost 5 runningLedger "run" answer after) ∧
    ∀ stack, (cancelTask sampleHost 5 true stack runningLedger "loop").1 = none := by
  have refused : (runningLedger.updateTaskStatus sampleHost "run" cancelUpdate 5).1 = false := by
    decide +kernel
  have wrong : ¬ ∃ stack answer after,
      cancelTask sampleHost 5 true stack runningLedger "run" = (some answer, after) ∧
        CancelsRightly sampleHost 5 runningLedger "run" answer after := by
    rintro ⟨stack, answer, after, called, rightly⟩
    have claimed := cancelTask_true sampleHost 5 stack runningLedger "run" _ rfl answer
      (by rw [called])
    rw [(rightly.refusal refused).1] at claimed
    cases claimed
  exact ⟨by decide +kernel, wrong, loop_never_ends⟩

end Hartos.SmartLedger
