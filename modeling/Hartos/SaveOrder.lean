import Hartos.LedgerRuns
import Hartos.StepSystem

/-!
Threads calling operations of one ledger whose writes all succeed. A save takes
its snapshot under `_lock` and writes it later under `_io_lock`, so between the
two another thread may change the ledger, and another snapshot may be written
first. Some operations hold `_lock` until their save has returned, others change
the task and save without it, and some leave their last change unsaved. What a
call does is a program, so a run may hold operations of any kind, and changes in
steps as small as one likes.
-/
namespace Hartos.SaveOrder
open TaskStatus KeyedTable StepSystem
open SmartLedger (LedgerCall LedgerOperation StatusUpdate StatusOperation Discovery Classification)

abbrev ThreadId := String

inductive Program where
  | done
  -- `_lock` is taken to look something up, and given back.
  | wait (next : Program)
  | acquire (next : Program)
  | release (next : Program)
  -- What comes next may depend on the ledger before the change.
  | change (effect : SmartLedger → SmartLedger) (next : SmartLedger → Program)
  | save (next : Program)

/-- While its snapshot waits for `_io_lock`, the thread is still at its save. -/
structure ThreadRow where
  threadId : ThreadId
  program : Program
  waiting : Option (LedgerImage × Nat)

abbrev Threads := Table ThreadRow.threadId

/-- The threads inside a call have a row. Snapshots are numbered as they are
taken; `shown` is the newest, `storedAt` the number of the one last written. -/
structure State where
  ledger : SmartLedger
  lock : Option ThreadId
  threads : Threads
  taken : Nat
  shown : LedgerImage
  storedAt : Nat

def opened (pubsub : Bool) (backend : Backend) : State where
  ledger := SmartLedger.load pubsub backend
  lock := none
  threads := Table.empty ThreadRow.threadId
  taken := 0
  shown := (SmartLedger.load pubsub backend).image
  storedAt := 0

inductive Event where
  | call (threadId : ThreadId) (program : Program)
  | run (threadId : ThreadId)

namespace State
variable (state : State)

def free (threadId : ThreadId) : Bool :=
  state.lock = none ∨ state.lock = some threadId

def goOn (threadId : ThreadId) (program : Program) : State :=
  { state with threads := state.threads.set ⟨threadId, program, none⟩ }

def advance (row : ThreadRow) : State :=
  match row.program with
  | .done => { state with threads := state.threads.erase row.threadId }
  | .wait next => if state.free row.threadId then state.goOn row.threadId next else state
  | .acquire next =>
      if state.lock = none then { state.goOn row.threadId next with lock := some row.threadId }
      else state
  | .release next =>
      { state.goOn row.threadId next with
        lock := if state.lock = some row.threadId then none else state.lock }
  | .change effect next =>
      { state.goOn row.threadId (next state.ledger) with
        ledger := { effect state.ledger with backend := state.ledger.backend } }
  | .save next => match row.waiting with
    | none =>
        if state.free row.threadId then
          { state with
            threads := state.threads.set
              ⟨row.threadId, .save next, some (state.ledger.image, state.taken + 1)⟩
            taken := state.taken + 1
            shown := state.ledger.image }
        else state
    -- Nothing happens under `_io_lock` but the write, so taking the lock, writing
    -- and giving it back are one event.
    | some (snapshot, number) =>
        { state.goOn row.threadId next with
          ledger := { state.ledger with
            backend := { state.ledger.backend with
              stored := some snapshot
              writes := state.ledger.backend.writes + 1 } }
          storedAt := number }

def step : Event → State
  | .call threadId program =>
      if state.threads.get? threadId = none then state.goOn threadId program else state
  | .run threadId => match state.threads.get? threadId with
    | some row => state.advance row
    | none => state

def reloaded : LedgerImage :=
  (SmartLedger.load state.ledger.pubsub state.ledger.backend).image

def Settled : Prop :=
  state.threads.rows = [] → state.reloaded = state.ledger.image

end State

section Operations
variable (call : LedgerCall)

variable (ledger : SmartLedger) (taskId : TaskId) (result : Option Value)

def accepting : SmartLedger :=
  { ledger with
    backend := { stored := ledger.backend.stored, verdict := fun _ => .accepted, writes := 0 } }

def staged : SmartLedger := (accepting ledger).perform call

def saves : Bool := decide ((staged call ledger).backend.writes ≠ 0)

def savingIf (saving : Bool) (next : Program) : Program := if saving then .save next else next

/-- One `with self._lock` block that ends after its save. -/
def locked : Program :=
  .acquire (.change (staged call) fun before => savingIf (saves call before) (.release .done))

def unlocked : Program :=
  .wait (.change (staged call) fun before => savingIf (saves call before) .done)

def cancelling : LedgerCall :=
  { call with operation := .updateTaskStatus taskId { status := .cancelled } }

/-- `cancel_task`, and what comes after it; where it calls itself too deeply it ends everything. -/
def cancelProgram (cascade : Bool) : Nat → TaskId → Program → Program
  | 0, _, _ => .release .done
  | stack + 1, taskId, next =>
      let cancel := cancelling call taskId
      .change (staged cancel) fun before =>
        savingIf (saves cancel before) (.change id fun after =>
          if cascade ∧ (before.getTask taskId).isSome then
            (after.reversePrerequisites taskId).foldr
              (fun dependent rest => cancelProgram cascade stack dependent rest) next
          else next)

def delegationCompleting (reason : String) : LedgerCall :=
  { call with
    operation := .updateTaskStatus taskId
      { status := .completed, result := result, reason := some reason } }

def setDelegationResult (ledger : SmartLedger) : SmartLedger :=
  ledger.modifyTask taskId fun task =>
    if task.status = .delegated then { task with delegationResult := result } else task

/-- `complete_delegation` writes the result outside `_lock`, and takes it back if the update is
refused. -/
def completeDelegation (reason : String) : Program :=
  let complete := delegationCompleting call taskId result reason
  .wait (.change (setDelegationResult taskId result) fun before =>
    match before.getTask taskId with
    | none => .done
    | some task =>
        if task.status = .delegated then
          .acquire (.change (staged complete) fun middle =>
            if saves complete middle then .save (.release .done)
            else .release (.change (·.modifyTask taskId fun left =>
              { left with delegationResult := task.delegationResult }) fun _ => .done))
        else .done)

def enterDynamic (description : String) (discovery : Discovery) (classification : Classification)
    (ledger : SmartLedger) : Task × SmartLedger :=
  let taskId := ledger.dynamicId
  let related := ledger.relatedSibling classification
  let task := classification.task discovery taskId description related.isSome call.now
  let told := match related with
    | none => ledger
    | some id => ledger.modifyTask id fun other =>
        { other with siblingTaskIds := other.siblingTaskIds ++ [taskId] }
  (task, (task.prerequisites.foldl (SmartLedger.registerDependent taskId) told).putTask task)

def blocking (parentId : TaskId) (description : String) : LedgerCall :=
  { call with
    operation := .updateTaskStatus parentId
      { status := .blocked, errorMessage := some s!"Waiting for child task: {description}" } }

def linkChild (parentId taskId : TaskId) (ledger : SmartLedger) : SmartLedger :=
  ledger.modifyTask parentId fun parent =>
    { parent with childTaskIds := SmartLedger.appendLink taskId parent.childTaskIds }

def waits (parentId : TaskId) : Bool :=
  (ledger.getTask parentId).any fun parent =>
    decide (parent.status ≠ .blocked ∧ parent.status ≠ .completed)

/-- `add_dynamic_task` saves, and then links the child to its parent, which it blocks if it can. -/
def addDynamicTask (description : String) (discovery : Discovery)
    (classification : Classification) : Program :=
  .change (fun ledger => (enterDynamic call description discovery classification ledger).2)
    fun before =>
      let task := (enterDynamic call description discovery classification before).1
      .save (match task.parentTaskId.filter (· ≠ "") with
        | none => .done
        | some parentId =>
            let block := blocking call parentId description
            .change (linkChild parentId task.taskId) fun middle =>
              if waits middle parentId then
                .acquire (.change (staged block) fun last =>
                  savingIf (saves block last) (.release .done))
              else .done)

def program : Program :=
  match call.operation with
  | .addTask .. | .updateTaskStatus .. | .completeTask .. | .reopenTask .. | .reprioritizeTask ..
  | .clearCompletedTasks | .reload .. => locked call
  | .change operation => match operation with
    | .reopenTask .. | .deferTask .. | .undeferTask .. | .addTask .. => locked call
    | .completeDelegation taskId result reason => completeDelegation call taskId result reason
    | _ => unlocked call
  | .cancelTask taskId cascade stack =>
      .acquire (cancelProgram call cascade stack taskId (.release .done))
  -- Only the change is under `_lock`.
  | .updateTaskContext .. =>
      .acquire (.change (staged call) fun before => .release (savingIf (saves call before) .done))
  | .addDynamicTask description discovery classification =>
      addDynamicTask call description discovery classification
  | .updateTaskProgress .. | .pauseAllActiveTasks .. | .resumeAllPausedTasks ..
  | .deferAllPendingTasks .. | .undeferAllTasks .. | .completeTaskAndRoute ..
  | .createParentChildTask .. | .createSiblingTasks .. | .createSequentialTasks ..
  | .addSubtasks .. => unlocked call
  | .save => .save .done
  | .method .. | .checkAndUnblockParent .. | .clearEvents | .enablePubsub =>
      .change (staged call) fun _ => .done
  -- A new instance, which is nothing that a thread of this one does.
  | .restart _ => .done

end Operations

def Forward (state : State) : Event → Prop
  | .run threadId => ∀ row snapshot number, state.threads.get? threadId = some row →
      row.waiting = some (snapshot, number) → state.storedAt ≤ number
  | .call .. => True

def ThreadRow.notAfter (row other : ThreadRow) : Bool :=
  match row.waiting, other.waiting with
  | some (_, number), some (_, number') => number ≤ number'
  | _, _ => true

/-- `_io_lock` goes to the oldest snapshot that waits for it, and the last call to return leaves
nothing in memory that the newest snapshot does not show. -/
def Orderly (state : State) : Event → Prop
  | .run threadId => ∀ row ∈ state.threads.rows, row.threadId = threadId →
      (∀ other ∈ state.threads.rows, row.notAfter other = true) ∧
      (row.program matches .done → state.threads.rows.length = 1 →
        state.shown = state.ledger.image)
  | .call .. => True

instance decidableOrderly (state : State) : (event : Event) → Decidable (Orderly state event)
  | .run threadId => inferInstanceAs (Decidable
      (∀ row ∈ state.threads.rows, row.threadId = threadId →
        (∀ other ∈ state.threads.rows, row.notAfter other = true) ∧
        (row.program matches .done → state.threads.rows.length = 1 →
          state.shown = state.ledger.image)))
  | .call .. => inferInstanceAs (Decidable True)

structure Ordered (state : State) : Prop where
  saving : ∀ row ∈ state.threads.rows, row.waiting ≠ none → ∃ next, row.program = .save next
  newer : ∀ row ∈ state.threads.rows, ∀ snapshot number,
    row.waiting = some (snapshot, number) → state.storedAt < number ∧ number ≤ state.taken
  distinct : ∀ row ∈ state.threads.rows, ∀ other ∈ state.threads.rows,
    ∀ snapshot snapshot' number, row.waiting = some (snapshot, number) →
      other.waiting = some (snapshot', number) → row.threadId = other.threadId
  latest : state.storedAt = state.taken ∨
    ∃ row ∈ state.threads.rows, ∃ snapshot, row.waiting = some (snapshot, state.taken)
  shows : ∀ row ∈ state.threads.rows, ∀ snapshot,
    row.waiting = some (snapshot, state.taken) → snapshot = state.shown
  stored : state.storedAt = state.taken → state.reloaded = state.shown
  quiet : state.threads.rows = [] → state.shown = state.ledger.image

theorem load_image (pubsub other : Bool) {backend backend' : Backend}
    (stored : backend.stored = backend'.stored) :
    (SmartLedger.load pubsub backend).image = (SmartLedger.load other backend').image := by
  unfold SmartLedger.load
  rw [stored]
  cases backend'.stored with
  | none => rfl
  | some saved => rfl

section Steps
variable {state next : State} {threadId : ThreadId} {row : ThreadRow}

theorem row_of_thread {found : ThreadRow} (looked : state.threads.get? threadId = some found)
    (member : row ∈ state.threads.rows) (same : row.threadId = threadId) : row = found := by
  have here := state.threads.mem_get? row member
  rw [same, looked] at here
  exact (Option.some.inj here).symm

/-- A step that takes no snapshot and writes none. -/
theorem Ordered.move (ordered : Ordered state) (taken : next.taken = state.taken)
    (storedAt : next.storedAt = state.storedAt) (shown : next.shown = state.shown)
    (backend : next.ledger.backend = state.ledger.backend)
    (kept : ∀ row, row.waiting ≠ none → (row ∈ next.threads.rows ↔ row ∈ state.threads.rows))
    (quiet : next.threads.rows = [] → next.shown = next.ledger.image) : Ordered next := by
  have there {row : ThreadRow} {waits : LedgerImage × Nat} (member : row ∈ next.threads.rows)
      (waiting : row.waiting = some waits) : row ∈ state.threads.rows :=
    (kept row (by simp [waiting])).mp member
  constructor
  · intro row member waits
    exact ordered.saving row ((kept row waits).mp member) waits
  · intro row member snapshot number waits
    rw [taken, storedAt]
    exact ordered.newer row (there member waits) snapshot number waits
  · intro row member other member' snapshot snapshot' number waits waits'
    exact ordered.distinct row (there member waits) other (there member' waits') snapshot snapshot'
      number waits waits'
  · rw [taken, storedAt]
    rcases ordered.latest with stored | ⟨row, member, snapshot, waits⟩
    · exact Or.inl stored
    · exact Or.inr ⟨row, (kept row (by simp [waits])).mpr member, snapshot, waits⟩
  · intro row member snapshot waits
    rw [taken] at waits
    rw [shown]
    exact ordered.shows row (there member waits) snapshot waits
  · intro last
    rw [taken, storedAt] at last
    rw [shown, ← ordered.stored last]
    exact load_image _ _ (congrArg Backend.stored backend)
  · exact quiet

theorem goOn_rows (found : state.threads.get? row.threadId = some row) (idle : row.waiting = none)
    (program : Program) (other : ThreadRow) (waits : other.waiting ≠ none) :
    other ∈ (state.goOn row.threadId program).threads.rows ↔ other ∈ state.threads.rows := by
  rw [State.goOn, Table.mem_set]
  constructor
  · rintro (rfl | ⟨member, _⟩)
    · exact absurd rfl waits
    · exact member
  · intro member
    refine Or.inr ⟨member, fun same => waits ?_⟩
    rw [row_of_thread found member same, idle]

theorem goOn_busy (program : Program) : (state.goOn threadId program).threads.rows ≠ [] := by
  intro nobody
  have here := (Table.mem_set state.threads ⟨threadId, program, none⟩ _).mpr (Or.inl rfl)
  change (state.threads.set _).rows = [] at nobody
  rw [nobody] at here
  cases here

theorem call_ordered (program : Program) (ordered : Ordered state) :
    Ordered (state.step (.call threadId program)) := by
  rw [State.step]
  split
  next absent =>
    refine ordered.move rfl rfl rfl rfl ?_ ?_
    · intro other waits
      rw [State.goOn, Table.mem_set]
      constructor
      · rintro (rfl | ⟨member, _⟩)
        · exact absurd rfl waits
        · exact member
      · intro member
        refine Or.inr ⟨member, fun same => ?_⟩
        have here := state.threads.mem_get? other member
        rw [same, absent] at here
        cases here
    · exact fun nobody => absurd nobody (goOn_busy program)
  next => exact ordered

theorem Ordered.storedAt_le (ordered : Ordered state) : state.storedAt ≤ state.taken := by
  rcases ordered.latest with stored | ⟨row, member, snapshot, waits⟩
  · exact Nat.le_of_eq stored
  · have bounds := ordered.newer row member snapshot state.taken waits
    omega

theorem snapshot_ordered (ordered : Ordered state) (row : ThreadRow) (after : Program) :
    Ordered { state with
      threads := state.threads.set
        ⟨row.threadId, .save after, some (state.ledger.image, state.taken + 1)⟩
      taken := state.taken + 1
      shown := state.ledger.image } := by
  have below := ordered.storedAt_le
  -- Its row is new, every other waiting row is an old one.
  have rows (other : ThreadRow) (member : other ∈ (state.threads.set
      ⟨row.threadId, .save after, some (state.ledger.image, state.taken + 1)⟩).rows) :
      other = ⟨row.threadId, .save after, some (state.ledger.image, state.taken + 1)⟩ ∨
        other ∈ state.threads.rows := by
    rcases (Table.mem_set _ _ _).mp member with same | old
    · exact Or.inl same
    · exact Or.inr old.1
  have here := (Table.mem_set state.threads
    ⟨row.threadId, .save after, some (state.ledger.image, state.taken + 1)⟩ _).mpr (Or.inl rfl)
  constructor
  · intro other member waits
    rcases rows other member with rfl | old
    · exact ⟨after, rfl⟩
    · exact ordered.saving other old waits
  · intro other member snapshot number waits
    rcases rows other member with rfl | old
    · cases waits
      dsimp only
      omega
    · have bounds := ordered.newer other old snapshot number waits
      dsimp only
      omega
  · intro one member other member' snapshot snapshot' number waits waits'
    rcases rows one member with rfl | old
    · rcases rows other member' with rfl | old'
      · rfl
      · cases waits
        have bounds := ordered.newer other old' snapshot' _ waits'
        omega
    · rcases rows other member' with rfl | old'
      · cases waits'
        have bounds := ordered.newer one old snapshot _ waits
        omega
      · exact ordered.distinct one old other old' snapshot snapshot' number waits waits'
  · exact Or.inr ⟨_, here, _, rfl⟩
  · intro other member snapshot waits
    rcases rows other member with rfl | old
    · cases waits
      rfl
    · have bounds := ordered.newer other old snapshot _ waits
      dsimp only at bounds
      omega
  · intro stored
    dsimp only at stored
    omega
  · intro nobody
    rw [show (state.threads.set _).rows = [] from nobody] at here

theorem write_ordered (ordered : Ordered state) (found : state.threads.get? row.threadId = some row)
    {snapshot : LedgerImage} {number : Nat} (waiting : row.waiting = some (snapshot, number))
    (oldest : ∀ other ∈ state.threads.rows, row.notAfter other = true) (after : Program) :
    Ordered { state.goOn row.threadId after with
      ledger := { state.ledger with
        backend := { state.ledger.backend with
          stored := some snapshot
          writes := state.ledger.backend.writes + 1 } }
      storedAt := number } := by
  have here := state.threads.get?_mem row.threadId row found
  have bounds := ordered.newer row here snapshot number waiting
  have rows (other : ThreadRow) (waits : other.waiting ≠ none)
      (member : other ∈ (state.goOn row.threadId after).threads.rows) :
      other ∈ state.threads.rows ∧ other.threadId ≠ row.threadId := by
    rcases (Table.mem_set _ _ _).mp member with rfl | old
    · exact absurd rfl waits
    · exact old
  -- Whoever still waits has a newer snapshot than the one written now.
  have later (other : ThreadRow) (member : other ∈ state.threads.rows)
      (apart : other.threadId ≠ row.threadId) (snapshot' : LedgerImage) (number' : Nat)
      (waits : other.waiting = some (snapshot', number')) : number < number' := by
    have order := oldest other member
    rw [ThreadRow.notAfter, waiting, waits] at order
    have different : number ≠ number' := by
      rintro rfl
      exact apart (ordered.distinct other member row here snapshot' snapshot number waits waiting)
    have le : number ≤ number' := of_decide_eq_true order
    omega
  have waited {other : ThreadRow} {waits : LedgerImage × Nat} (is : other.waiting = some waits) :
      other.waiting ≠ none := by
    rw [is]
    exact Option.some_ne_none waits
  constructor
  · intro other member waits
    exact ordered.saving other (rows other waits member).1 waits
  · intro other member snapshot' number' waits
    obtain ⟨old, apart⟩ := rows other (waited waits) member
    exact ⟨later other old apart snapshot' number' waits,
      (ordered.newer other old snapshot' number' waits).2⟩
  · intro one member other member' snapshot' snapshot'' number' waits waits'
    exact ordered.distinct one (rows one (waited waits) member).1 other
      (rows other (waited waits') member').1 snapshot' snapshot'' number' waits waits'
  -- Where a newer snapshot was taken, the newest one still waits.
  · by_cases newest : number = state.taken
    · exact Or.inl newest
    · rcases ordered.latest with stored | ⟨other, member, snapshot', waits⟩
      · omega
      · have apart : other.threadId ≠ row.threadId := by
          intro same
          rw [row_of_thread found member same, waiting] at waits
          cases waits
          exact newest rfl
        exact Or.inr ⟨other, (Table.mem_set _ _ _).mpr (Or.inr ⟨member, apart⟩), snapshot', waits⟩
  · intro other member snapshot' waits
    exact ordered.shows other (rows other (waited waits) member).1 snapshot' waits
  · intro newest
    have last : number = state.taken := newest
    exact ordered.shows row here snapshot (by rw [waiting, last])
  · exact fun nobody => absurd nobody (goOn_busy after)

end Steps

theorem advance_ordered {state : State} {row : ThreadRow} (ordered : Ordered state)
    (found : state.threads.get? row.threadId = some row)
    (orderly : Orderly state (.run row.threadId)) : Ordered (state.advance row) := by
  have here := state.threads.get?_mem row.threadId row found
  obtain ⟨oldest, covered⟩ := orderly row here rfl
  -- Only a thread at a save has a snapshot waiting.
  have idle (other : ∀ next, row.program ≠ .save next) : row.waiting = none := by
    by_contra waits
    obtain ⟨next, saving⟩ := ordered.saving row here waits
    exact other next saving
  obtain ⟨threadId, program, waiting⟩ := row
  unfold State.advance
  cases program with
  | done =>
    refine ordered.move rfl rfl rfl rfl ?_ ?_
    · intro other waits
      rw [Table.mem_erase]
      constructor
      · exact And.left
      · intro member
        refine ⟨member, fun same => waits ?_⟩
        rw [row_of_thread found member same]
        exact idle fun _ => nofun
    · intro nobody
      -- The thread was the only one in a call.
      apply covered rfl
      have rest : ∀ other ∈ state.threads.rows, other.threadId = threadId := by
        intro other member
        by_contra apart
        have left := (Table.mem_erase state.threads threadId other).mpr ⟨member, apart⟩
        change other ∈ (state.threads.erase threadId).rows at left
        rw [show (state.threads.erase threadId).rows = [] from nobody] at left
        cases left
      have same : ∀ other ∈ state.threads.rows, other = ⟨threadId, .done, waiting⟩ :=
        fun other member => row_of_thread found member (rest other member)
      have unique := state.threads.unique
      match rows : state.threads.rows with
      | [] => rw [rows] at here; cases here
      | [_] => rfl
      | one :: two :: others =>
        rw [rows] at same unique
        have alike := (same one (by simp)).trans (same two (by simp)).symm
        simp [alike] at unique
  | wait next =>
    dsimp only
    split
    · exact ordered.move rfl rfl rfl rfl (goOn_rows found (idle fun _ => nofun) next)
        fun nobody => absurd nobody (goOn_busy next)
    · exact ordered
  | acquire next =>
    dsimp only
    split
    · exact ordered.move rfl rfl rfl rfl (goOn_rows found (idle fun _ => nofun) next)
        fun nobody => absurd nobody (goOn_busy next)
    · exact ordered
  | release next =>
    exact ordered.move rfl rfl rfl rfl (goOn_rows found (idle fun _ => nofun) next)
      fun nobody => absurd nobody (goOn_busy next)
  | change effect next =>
    exact ordered.move rfl rfl rfl rfl (goOn_rows found (idle fun _ => nofun) _)
      fun nobody => absurd nobody (goOn_busy _)
  | save next =>
    cases waiting with
    -- The snapshot first, then the write.
    | none =>
      dsimp only
      split
      · exact snapshot_ordered ordered ⟨threadId, .save next, none⟩ next
      · exact ordered
    | some waits => exact write_ordered ordered found rfl oldest next

theorem step_ordered (state : State) (event : Event) (ordered : Ordered state)
    (orderly : Orderly state event) : Ordered (state.step event) := by
  cases event with
  | call threadId program => exact call_ordered program ordered
  | run threadId =>
    rw [State.step]
    split
    next row found =>
      have key : row.threadId = threadId := state.threads.get?_key threadId row found
      subst key
      exact advance_ordered ordered found orderly
    next => exact ordered

theorem Ordered.forward {state : State} (ordered : Ordered state) (event : Event) :
    Forward state event := by
  cases event with
  | run threadId =>
    intro row snapshot number found waits
    have bounds := ordered.newer row (state.threads.get?_mem threadId row found) snapshot number waits
    exact Nat.le_of_lt bounds.1
  | call => trivial

theorem Ordered.settled {state : State} (ordered : Ordered state) : state.Settled := by
  intro returned
  have stored : state.storedAt = state.taken := by
    rcases ordered.latest with stored | ⟨row, member, _⟩
    · exact stored
    · rw [returned] at member
      cases member
  exact (ordered.stored stored).trans (ordered.quiet returned)

def twoTasks : Backend where
  stored := some ⟨["a", "b"], ((Table.empty Task.taskId).set
    (SmartLedger.sampleTask "a" .pending)).set (SmartLedger.sampleTask "b" .pending)⟩
  verdict := fun _ => .accepted
  writes := 0

def pausing : Program :=
  program ⟨.change (.pauseTask "a" "lunch"), 1, SmartLedger.sampleHost⟩

def updating : Program :=
  program ⟨.updateTaskStatus "b" { status := .inProgress }, 2, SmartLedger.sampleHost⟩

def bothWaiting : List Event :=
  [.call "left" pausing, .run "left", .run "left", .run "left", .call "right" updating,
    .run "right", .run "right", .run "right"]

def inOrder : List Event :=
  bothWaiting ++ [.run "left", .run "left", .run "right", .run "right", .run "right"]

end Hartos.SaveOrder
