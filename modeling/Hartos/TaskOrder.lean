import Hartos.TaskNames

/-!
`task_order` beside the keys of the task map. It is kept by `add_task` alone: the
creating operations enter a task without a word to it, and clearing the completed
tasks leaves their ids on it. A scan of the order therefore misses the first and
stumbles over the second.
-/
namespace Hartos.SmartLedger
open TaskStatus KeyedTable
open Hartos.Task (Lived SameIdentity)

theorem mem_enteredKeys (keys : List TaskId) (entered wanted : TaskId) :
    wanted ∈ enteredKeys keys entered ↔ wanted ∈ keys ∨ wanted = entered := by
  simp only [enteredKeys]
  split
  next present =>
    constructor
    · exact Or.inl
    · rintro (member | rfl)
      · exact member
      · exact present
  next => simp

variable (taskOrder : List TaskId) (tasks : TaskTable) (ledger : SmartLedger) (call : LedgerCall)
  (parentTaskId : TaskId) (descriptions : List String) (taskType : TaskType)
  (operation : LedgerOperation)
variable (now : Time) (task : Task)

theorem putTask_enters : task.taskId ∈ (ledger.putTask task).tasks.keys := by
  rw [keys_putTask, mem_enteredKeys]
  exact Or.inr rfl

-- A loop that only adds keys, and adds one in each pass, has added them all.
theorem foldl_enters {Item : Type} (pass : SmartLedger → Item → SmartLedger)
    (name : Item → TaskId)
    (keeps : ∀ current item, ∀ id ∈ current.tasks.keys, id ∈ (pass current item).tasks.keys)
    (enters : ∀ current item, name item ∈ (pass current item).tasks.keys)
    (items : List Item) (ledger : SmartLedger) (id : TaskId)
    (listed : id ∈ ledger.tasks.keys ∨ id ∈ items.map name) :
    id ∈ (items.foldl pass ledger).tasks.keys := by
  induction items generalizing ledger with
  | nil =>
    rcases listed with present | none
    · exact present
    · cases none
  | cons item rest ih =>
    apply ih
    rcases listed with present | listed
    · exact Or.inl (keeps ledger item id present)
    · rcases List.mem_cons.mp listed with rfl | later
      · exact Or.inl (enters ledger item)
      · exact Or.inr later

theorem keys_enterSibling (ledger : SmartLedger) (entry : TaskId × String) :
    (enterSibling parentTaskId taskType now ledger entry).tasks.keys =
      enteredKeys ledger.tasks.keys entry.1 := by
  refine (keys_linkTask _ parentTaskId _ fun task => addChildTask_linked task entry.1 now).trans ?_
  exact keys_putTask ledger _

theorem createSiblingTasks_enters (present : (ledger.getTask parentTaskId).isSome = true)
    (id : TaskId) (listed : id ∈ siblingIds parentTaskId descriptions.length) :
    id ∈ (ledger.createSiblingTasks parentTaskId descriptions taskType now).2.tasks.keys := by
  simp only [createSiblingTasks]
  obtain ⟨parent, found⟩ := Option.isSome_iff_exists.mp present
  have length : (siblingIds parentTaskId descriptions.length).length = descriptions.length := by
    simp [siblingIds]
  rw [found]
  generalize siblingIds parentTaskId descriptions.length = ids at listed length ⊢
  have entered := foldl_enters (enterSibling parentTaskId taskType now) Prod.fst
    (fun current entry id member => by
      rw [keys_enterSibling, mem_enteredKeys]
      exact Or.inl member)
    (fun current entry => by
      rw [keys_enterSibling, mem_enteredKeys]
      exact Or.inr rfl)
    (ids.zip descriptions) ledger id
    (Or.inr (by rwa [List.map_fst_zip (Nat.le_of_eq length)]))
  have linked (entered : SmartLedger) : Worked Linked (fun _ => False) entered
      (ids.foldl (linkSiblings ids now) entered) :=
    foldl_worked (linkSiblings ids now) ids
      (fun current id _ => linkSiblings_worked ids now current id) entered
  exact (linked _).tasks.keys id entered

theorem enterSequence_enters (parentTaskId : Option TaskId) (now : Time)
    (descriptions : List String) (position : Nat) (previousTaskId : Option TaskId)
    (ledger : SmartLedger) (id : TaskId)
    (listed : id ∈ ledger.tasks.keys ∨ id ∈ (enterSequence taskType parentTaskId now descriptions
      position previousTaskId ledger).1) :
    id ∈ (enterSequence taskType parentTaskId now descriptions position previousTaskId
      ledger).2.tasks.keys := by
  induction descriptions generalizing position previousTaskId ledger with
  | nil =>
    rcases listed with present | none
    · exact present
    · cases none
  | cons description rest ih =>
    apply ih
    rw [keys_enterChained, mem_enteredKeys]
    rcases listed with present | listed
    · exact Or.inl (Or.inl present)
    · rcases List.mem_cons.mp listed with same | later
      · exact Or.inl (Or.inr same)
      · exact Or.inr later

theorem enterSubtasks_enters (parentActionId : Int) (now : Time) (subtasks : List SubtaskSpec)
    (ledger : SmartLedger) (id : TaskId)
    (listed : id ∈ ledger.tasks.keys ∨ id ∈ subtaskIds parentActionId now subtasks ledger) :
    id ∈ (subtasks.foldl (enterSubtask parentActionId now) ledger).tasks.keys := by
  induction subtasks generalizing ledger with
  | nil =>
    rcases listed with present | none
    · exact present
    · cases none
  | cons subtask rest ih =>
    have entered : (enterSubtask parentActionId now ledger subtask).tasks.keys =
        enteredKeys ledger.tasks.keys (ledger.subtaskId parentActionId subtask) :=
      keys_putTask ledger _
    apply ih
    rw [entered, mem_enteredKeys]
    rcases listed with present | listed
    · exact Or.inl (Or.inl present)
    · rcases List.mem_cons.mp listed with same | later
      · exact Or.inl (Or.inr same)
      · exact Or.inr later

theorem addDynamicTask_enters (host : Host) (ledger : SmartLedger) (taskDescription : String)
    (discovery : Discovery) (classification : Classification) (now : Time) :
    ledger.dynamicId ∈
      (ledger.addDynamicTask host taskDescription discovery classification now).2.tasks.keys := by
  have life := task_lived classification discovery ledger.dynamicId taskDescription
    (ledger.relatedSibling classification).isSome now
  have named : (classification.task discovery ledger.dynamicId taskDescription
    (ledger.relatedSibling classification).isSome now).taskId = ledger.dynamicId := life.taskId
  have awaits (entered : SmartLedger) (parentTaskId : Option TaskId) :
      Worked Linked (fun _ => False) entered (entered.awaitChild host parentTaskId ledger.dynamicId
        taskDescription now) :=
    awaitChild_worked host entered parentTaskId ledger.dynamicId taskDescription now
  apply (awaits _ _).tasks.keys
  have entered (wired : SmartLedger) := putTask_enters wired (classification.task discovery
    ledger.dynamicId taskDescription (ledger.relatedSibling classification).isSome now)
  rw [named] at entered
  exact entered _

theorem minted_entered (id : TaskId) (minted : id ∈ call.operation.mintedIds ledger call.now) :
    id ∈ (ledger.perform call).tasks.keys := by
  obtain ⟨operation, now, host⟩ := call
  cases operation with
  | createParentChildTask parentTaskId description childType options =>
    simp only [LedgerOperation.mintedIds, Option.mem_toList, Option.map_eq_some_iff] at minted
    obtain ⟨parent, found, rfl⟩ := minted
    simp only [perform, createParentChildTask, found]
    exact putTask_enters _ _
  | createSiblingTasks parentTaskId descriptions taskType =>
    simp only [LedgerOperation.mintedIds] at minted
    split at minted
    next present =>
      exact createSiblingTasks_enters ledger parentTaskId descriptions taskType now present id
        minted
    next => cases minted
  | createSequentialTasks descriptions taskType parentTaskId =>
    exact enterSequence_enters taskType parentTaskId now descriptions 1 none ledger id
      (Or.inr minted)
  | addDynamicTask description discovery classification =>
    rw [List.mem_singleton.mp minted]
    exact addDynamicTask_enters host ledger description discovery classification now
  | addSubtasks parentActionId subtasks =>
    simp only [LedgerOperation.mintedIds] at minted
    split at minted
    next present =>
      obtain ⟨parent, found⟩ := Option.isSome_iff_exists.mp present
      simp only [perform, addSubtasks, found]
      have waits (entered : SmartLedger) : Worked Linked (fun _ => False) entered
          (entered.modifyTask (actionTaskId parentActionId) fun task =>
            (task.transitionTo .blocked
              s!"Waiting for {subtasks.length} subtasks to complete" now).getD task) :=
        linkTask_worked entered (actionTaskId parentActionId) _ fun task =>
          tried_lived task .blocked _ now
      exact (waits _).tasks.keys id (enterSubtasks_enters parentActionId now subtasks ledger id
        (Or.inr minted))
    next => cases minted
  | _ => cases minted

def OrderMatches (taskOrder : List TaskId) (tasks : TaskTable) : Prop :=
  taskOrder.Perm tasks.keys

structure Ordered (ledger : SmartLedger) : Prop where
  memory : OrderMatches ledger.taskOrder ledger.tasks
  stored : ∀ image, ledger.backend.stored = some image → OrderMatches image.taskOrder image.tasks

def KeepsOrder (ledger : SmartLedger) : LedgerOperation → Prop
  | .clearCompletedTasks => ledger.completedIds = []
  | operation => ∀ taskId ∈ operation.names ledger, taskId ∈ ledger.tasks.keys

theorem orderMatches_iff :
    OrderMatches taskOrder tasks ↔
      taskOrder.Nodup ∧ ∀ taskId, taskId ∈ taskOrder ↔ taskId ∈ tasks.keys := by
  constructor
  · intro matched
    exact ⟨matched.nodup_iff.mpr tasks.unique, fun taskId => matched.mem_iff⟩
  · rintro ⟨nodup, same⟩
    exact (List.perm_ext_iff_of_nodup nodup tasks.unique).mpr same

theorem orderMatches_empty : OrderMatches [] (Table.empty Task.taskId) := List.Perm.nil

-- A table that grew by no key still matches its order.
theorem Grown.orderMatches {kept : Task → Task → Prop} {minted : TaskId → Prop}
    {first second : TaskTable} {taskOrder : List TaskId} (grown : Grown kept minted first second)
    (inside : ∀ taskId, minted taskId → taskId ∈ first.keys)
    (matched : OrderMatches taskOrder first) : OrderMatches taskOrder second := by
  rw [orderMatches_iff] at matched ⊢
  refine ⟨matched.1, fun taskId => (matched.2 taskId).trans ⟨grown.keys taskId, ?_⟩⟩
  intro member
  obtain ⟨new, found⟩ := (Table.mem_keys second taskId).mp member
  rcases grown.origin taskId new found with ⟨old, there, _⟩ | ⟨hit, _⟩
  · exact (Table.mem_keys first taskId).mpr ⟨old, there⟩
  · exact inside taskId hit

theorem ordered_iff :
    Ordered ledger ↔
      HoldsOfImages (fun image => OrderMatches image.taskOrder image.tasks) ledger :=
  ⟨fun ordered => ⟨ordered.memory, ordered.stored⟩, fun holds => ⟨holds.memory, holds.stored⟩⟩

/-- What `add_task` does to the order when a task enters. -/
theorem orderMatches_put (matched : OrderMatches taskOrder tasks) :
    OrderMatches (if task.taskId ∈ taskOrder then taskOrder else taskOrder ++ [task.taskId])
      (tasks.set task) := by
  have order := (orderMatches_iff taskOrder tasks).mp matched
  have keys : (tasks.set task).keys = enteredKeys tasks.keys task.taskId :=
    Table.keys_set tasks task
  rw [OrderMatches, keys, enteredKeys]
  simp only [order.2 task.taskId]
  split
  · exact matched
  · exact matched.append_right [task.taskId]

theorem keys_clearCompletedTasks :
    ledger.clearCompletedTasks.tasks.keys =
      ledger.tasks.keys.filter (· ∉ ledger.completedIds) := by
  simp only [clearCompletedTasks, save, Table.keys_eraseAll]

theorem clearCompletedTasks_ordered (ordered : Ordered ledger) :
    Ordered ledger.clearCompletedTasks ↔ ledger.completedIds = [] := by
  have order := (orderMatches_iff ledger.taskOrder ledger.tasks).mp ordered.memory
  constructor
  · intro after
    rw [List.eq_nil_iff_forall_not_mem]
    intro taskId cleared
    have key : taskId ∈ ledger.tasks.keys := by
      simp only [completedIds, List.mem_map, List.mem_filter] at cleared
      obtain ⟨task, ⟨member, _⟩, rfl⟩ := cleared
      exact List.mem_map_of_mem member
    have listed : taskId ∈ ledger.clearCompletedTasks.tasks.keys :=
      ((orderMatches_iff _ _).mp after.memory).2 taskId |>.mp ((order.2 taskId).mpr key)
    rw [keys_clearCompletedTasks, List.mem_filter] at listed
    simp [cleared] at listed
  · intro nothing
    rw [ordered_iff]
    simp only [clearCompletedTasks, nothing, List.foldl_nil]
    exact HoldsOfImages.save ⟨ordered.memory, ordered.stored⟩

theorem keepsOrder_iff (keeps : operation.replacesTasks = false) :
    KeepsOrder ledger operation ↔
      ∀ taskId ∈ operation.names ledger, taskId ∈ ledger.tasks.keys := by
  cases operation with
  | clearCompletedTasks => cases keeps
  | _ => exact Iff.rfl

theorem keepsOrder_added (handed : operation.addedTask = some task) :
    KeepsOrder ledger operation := by
  cases operation with
  | addTask | change => exact fun _ none => (List.not_mem_nil none).elim
  | _ => cases handed

/-- The order survives exactly the calls that neither clear a task nor enter one behind its back. -/
theorem perform_ordered (ordered : Ordered ledger) :
    Ordered (ledger.perform call) ↔ KeepsOrder ledger call.operation := by
  have images := (ordered_iff ledger).mp ordered
  cases perform_ends ledger call with
  | added task deferSave handed ends =>
    have put := images.addTask task deferSave
      (orderMatches_put ledger.taskOrder ledger.tasks task ordered.memory)
    rw [ends, ordered_iff]
    exact iff_of_true put (keepsOrder_added ledger call.operation task handed)
  | cleared asked ends =>
    rw [ends, asked]
    exact clearCompletedTasks_ordered ledger ordered
  | reloaded readable asked ends =>
    rw [ends, asked, ordered_iff]
    exact iff_of_true (images.reload orderMatches_empty readable)
      fun _ none => (List.not_mem_nil none).elim
  | restarted readable asked ends =>
    rw [ends, asked, ordered_iff]
    exact iff_of_true (images.restart orderMatches_empty readable)
      fun _ none => (List.not_mem_nil none).elim
  | worked keeps ends =>
    rw [keepsOrder_iff ledger call.operation keeps]
    rw [minted_names] at ends
    constructor
    · intro after taskId named
      have entered := minted_entered ledger call taskId (by rwa [minted_names])
      rw [← after.memory.mem_iff, ends.taskOrder, ordered.memory.mem_iff] at entered
      exact entered
    · intro inside
      rw [ordered_iff]
      exact images.worked ends fun tasks grown => grown.orderMatches inside ordered.memory

variable (session : Session)

/-- A load finds the order that was last written, or read; an `InMemoryBackend` has by then also
what `add_task` appended to the list it shares. -/
def LoadsOrder (session : Session) : Prop :=
  session.storage.map LedgerImage.taskOrder =
    session.ledger.backend.stored.map LedgerImage.taskOrder

def SessionKeepsOrder (session : Session) (call : LedgerCall) : Prop :=
  if call.operation.reads then LoadsOrder session else KeepsOrder session.ledger call.operation

-- An order matches a table of the same keys only while nothing is appended to it.
theorem Mirrors.ordered {written now : LedgerImage} (mirrors : Mirrors written now)
    (matched : OrderMatches written.taskOrder written.tasks) :
    OrderMatches now.taskOrder now.tasks ↔ now.taskOrder = written.taskOrder := by
  have keys : now.tasks.keys = written.tasks.keys := mirrors.tasks.keys
  unfold OrderMatches at matched ⊢
  rw [keys]
  constructor
  · intro after
    exact (mirrors.order.eq_of_length (matched.length_eq.trans after.length_eq.symm)).symm
  · intro same
    rwa [same]

theorem keepsOrder_reads (reads : operation.reads = true) : KeepsOrder ledger operation := by
  cases operation with
  | reload | restart => exact fun _ none => (List.not_mem_nil none).elim
  | _ => cases reads

theorem withStored_ordered (stored : Option LedgerImage) (ordered : Ordered ledger)
    (images : ∀ image, stored = some image → OrderMatches image.taskOrder image.tasks) :
    Ordered (ledger.withStored stored) := ⟨ordered.memory, images⟩

theorem load_ordered (sound : session.Sound) (ordered : Ordered session.ledger)
    (reads : call.operation.reads = true) :
    Ordered ((session.ledger.withStored session.storage).perform call) ↔ LoadsOrder session := by
  unfold LoadsOrder
  cases held : session.storage with
  | none =>
    have met := withStored_ordered session.ledger none ordered nofun
    rw [sound.absent held]
    exact iff_of_true ((perform_ordered _ call met).mpr (keepsOrder_reads _ _ reads)) rfl
  | some image =>
    obtain ⟨written, there, mirrors⟩ := sound.mirrors image held
    have exactly := mirrors.ordered (ordered.stored written there)
    obtain ⟨backend, read⟩ :=
      perform_reads (session.ledger.withStored (some image)) call reads
    have after := read image rfl
    rw [there, Option.map_some, Option.map_some, Option.some.injEq, ← exactly]
    constructor
    · intro matched
      apply matched.stored image
      rw [backend]
      rfl
    · intro matched
      refine ⟨?_, fun found here => ?_⟩
      · rw [← after] at matched
        exact matched
      · rw [backend] at here
        cases here
        exact matched

theorem shareStep_ordered (sound : session.Sound) (ordered : Ordered session.ledger) :
    Ordered (session.shareStep call).ledger ↔ SessionKeepsOrder session call := by
  have exactly : Ordered ((session.ledger.withStored
      (if call.operation.reads = true then session.storage else none)).perform call) ↔
        SessionKeepsOrder session call := by
    unfold SessionKeepsOrder
    cases reads : call.operation.reads with
    | true => exact load_ordered call session sound ordered reads
    | false =>
      have met := withStored_ordered session.ledger none ordered nofun
      exact perform_ordered _ call met
  rw [← exactly]
  unfold Session.shareStep
  dsimp only
  split
  next => exact Iff.rfl
  next written =>
    constructor
    · exact fun after => ⟨after.memory, fun image held => nomatch written.symm.trans held⟩
    · exact fun after => withStored_ordered _ _ after ordered.stored

theorem step_ordered (sound : session.Sound) (ordered : Ordered session.ledger) :
    Ordered (session.step call).ledger ↔ SessionKeepsOrder session call := by
  unfold Session.step
  cases kind : session.inMemory with
  | true => exact shareStep_ordered call session sound ordered
  | false =>
    have exactly := perform_ordered session.ledger call ordered
    unfold SessionKeepsOrder
    cases reads : call.operation.reads with
    | false => exact exactly
    | true =>
      have loads : LoadsOrder session :=
        congrArg (Option.map LedgerImage.taskOrder) (sound.copies kind).1
      exact iff_of_true (exactly.mpr (keepsOrder_reads _ _ reads)) loads

/-- Along a run from an empty ledger, `task_order` is a permutation of the task
ids throughout, in memory and as it was saved, exactly when every call keeps it. -/
theorem order_matches_iff (storage : Storage) (run : List LedgerCall) :
    StepSystem.Always Session.step (fun session => Ordered session.ledger)
        (Session.opened storage) run ↔
      StepSystem.Along Session.step SessionKeepsOrder (Session.opened storage) run := by
  have starts (verdict : Nat → Verdict) : Ordered (opened verdict) := by
    rw [ordered_iff]
    apply holdsOfImages_load orderMatches_empty
    intro image held
    cases held
  have begins : Ordered (Session.opened storage).ledger := by
    cases storage with
    | copying verdict => exact starts verdict
    | inMemory => exact starts fun _ => .accepted
  exact StepSystem.always_iff_along Session.step Session.Sound
    (fun session => Ordered session.ledger) SessionKeepsOrder
    (fun session call sound => session.step_sound call sound)
    (fun session call sound ordered => step_ordered call session sound ordered)
    run (Session.opened storage) (Session.opened_sound storage) begins

/-- Two siblings under a parent that `add_task` entered: neither is on the order. -/
theorem siblings_missing_from_order :
    ¬ StepSystem.Always Session.step (fun session => Ordered session.ledger)
      (Session.opened (.copying fun _ => .accepted)) familyCalls := by
  rintro ⟨_, _, afterSiblings, _⟩
  have listed : "action_1_sibling_1" ∈ ["action_1"] :=
    afterSiblings.memory.mem_iff.mpr (by decide)
  revert listed
  decide

/-- The list of the order that a load handed out has grown in the storage. -/
example :
    let ledger := (StepSystem.final Session.step (Session.opened .inMemory)
      [calledAt 1 (.addTask (Task.create "a" "work" .autonomous 0) false),
        calledAt 2 (.reload true),
        calledAt 3 (.addTask (Task.create "b" "more" .autonomous 0) true),
        calledAt 4 (.reload true)]).ledger
    ledger.taskOrder = ["a", "b"] ∧ ledger.tasks.keys = ["a"] := by decide

end Hartos.SmartLedger
