import Hartos.MessageDelivery

/-!
Who shares the dict of a message. `receive_message` stamps the dict it is given and
keeps a reference to it, so one dict stands in the sender's outbox and in the list
of every task it was handed to. A load gives every list its own dicts again.
-/
namespace Hartos
open KeyedTable

structure MessageHeap where
  dicts : List Message
  outbox : TaskId → List Nat
  inbox : TaskId → List Nat

namespace MessageHeap
open SmartLedger (stamp)

def appendRef (lists : TaskId → List Nat) (taskId : TaskId) (ref : Nat) (wanted : TaskId) :
    List Nat :=
  if wanted = taskId then lists wanted ++ [ref] else lists wanted

def send (senderId : TaskId) (heap : MessageHeap) (message : Message) : MessageHeap :=
  { heap with
    dicts := heap.dicts ++ [message]
    outbox := appendRef heap.outbox senderId heap.dicts.length }

def receive (dependentId : TaskId) (now : Time) (heap : MessageHeap) (ref : Nat) : MessageHeap :=
  { heap with
    dicts := heap.dicts.modify ref (stamp now)
    inbox := appendRef heap.inbox dependentId ref }

def deliver (senderId : TaskId) (now : Time) (heap : MessageHeap) (dependentId : TaskId) :
    MessageHeap :=
  (heap.outbox senderId).foldl (receive dependentId now) heap

def enter (heap : MessageHeap) (task : Task) : MessageHeap where
  dicts := heap.dicts ++ task.messagesToDependents ++ task.receivedMessages
  outbox := fun wanted =>
    if wanted = task.taskId then
      List.range' heap.dicts.length task.messagesToDependents.length
    else heap.outbox wanted
  inbox := fun wanted =>
    if wanted = task.taskId then
      List.range' (heap.dicts.length + task.messagesToDependents.length)
        task.receivedMessages.length
    else heap.inbox wanted

def loaded (tasks : TaskTable) : MessageHeap := tasks.rows.foldl enter ⟨[], fun _ => [], fun _ => []⟩

def unstamped (message : Message) : Message := { message with receivedAt := none }

def read (heap : MessageHeap) (refs : List Nat) : List (Option Message) :=
  refs.map fun ref => (heap.dicts[ref]?).map unstamped

structure ShowsRow (heap : MessageHeap) (task : Task) : Prop where
  outbox : heap.read (heap.outbox task.taskId) = task.messagesToDependents.map (some ∘ unstamped)
  inbox : heap.read (heap.inbox task.taskId) = task.receivedMessages.map (some ∘ unstamped)

def Shows (heap : MessageHeap) (tasks : TaskTable) : Prop :=
  ∀ task ∈ tasks.rows, heap.ShowsRow task

variable (senderId : TaskId) (messages : List Message) (dependentId : TaskId) (now : Time)
  (refs : List Nat) (heap : MessageHeap)

-- References that show something are references to dicts there are.
theorem lt_of_read (refs : List Nat) (messages : List Message)
    (shown : heap.read refs = messages.map (some ∘ unstamped)) (ref : Nat) (member : ref ∈ refs) :
    ref < heap.dicts.length := by
  by_contra beyond
  have missing : heap.dicts[ref]? = none := List.getElem?_eq_none (Nat.le_of_not_lt beyond)
  have listed : none ∈ heap.read refs := by
    apply List.mem_map.mpr
    exact ⟨ref, member, by simp [missing]⟩
  rw [shown] at listed
  obtain ⟨message, _, impossible⟩ := List.mem_map.mp listed
  cases impossible

theorem read_extended (heap longer : MessageHeap) (refs : List Nat) (messages more : List Message)
    (shown : heap.read refs = messages.map (some ∘ unstamped))
    (extended : longer.dicts = heap.dicts ++ more) : longer.read refs = heap.read refs := by
  apply List.map_congr_left
  intro ref member
  have there := lt_of_read heap refs messages shown ref member
  rw [extended, List.getElem?_append_left there]

theorem read_range (before messages after : List Message)
    (dicts : heap.dicts = before ++ messages ++ after) :
    heap.read (List.range' before.length messages.length) = messages.map (some ∘ unstamped) := by
  induction messages generalizing before with
  | nil => rfl
  | cons message rest ih =>
    have first : heap.dicts[before.length]? = some message := by
      rw [dicts, List.append_assoc, List.getElem?_append_right (Nat.le_refl _)]
      simp
    have later := ih (before ++ [message]) (by simp [dicts])
    simp only [List.length_append, List.length_cons, List.length_nil, Nat.zero_add] at later
    simp only [List.length_cons, List.range'_succ, read, List.map_cons, first, Option.map_some]
    exact congrArg _ later

theorem enter_shows (task : Task) : (heap.enter task).ShowsRow task := by
  constructor
  · simp only [enter, ↓reduceIte]
    exact read_range _ heap.dicts _ task.receivedMessages rfl
  · have received := read_range (heap.enter task) (heap.dicts ++ task.messagesToDependents)
      task.receivedMessages [] (by simp [enter])
    simp only [List.length_append] at received
    simp only [enter, ↓reduceIte] at received ⊢
    exact received

theorem enter_keeps (task other : Task) (apart : other.taskId ≠ task.taskId)
    (shown : heap.ShowsRow other) : (heap.enter task).ShowsRow other := by
  have extended : (heap.enter task).dicts =
      heap.dicts ++ (task.messagesToDependents ++ task.receivedMessages) := by
    simp [enter, List.append_assoc]
  constructor
  · have outbox : (heap.enter task).outbox other.taskId = heap.outbox other.taskId := if_neg apart
    rw [outbox, read_extended heap _ _ _ _ shown.outbox extended, shown.outbox]
  · have inbox : (heap.enter task).inbox other.taskId = heap.inbox other.taskId := if_neg apart
    rw [inbox, read_extended heap _ _ _ _ shown.inbox extended, shown.inbox]

theorem entered_shows (rows entered : List Task) (heap : MessageHeap)
    (unique : ((entered ++ rows).map Task.taskId).Nodup)
    (shown : ∀ task ∈ entered, heap.ShowsRow task) :
    ∀ task ∈ entered ++ rows, (rows.foldl enter heap).ShowsRow task := by
  induction rows generalizing entered heap with
  | nil => simpa using shown
  | cons row rest ih =>
    have split : entered ++ row :: rest = (entered ++ [row]) ++ rest := by simp
    rw [split] at unique ⊢
    apply ih (entered ++ [row]) (heap.enter row) unique
    intro task member
    rcases List.mem_append.mp member with before | here
    · apply enter_keeps heap row task ?_ (shown task before)
      rw [List.map_append, List.nodup_append, List.map_append, List.nodup_append] at unique
      exact unique.1.2.2 task.taskId (List.mem_map_of_mem before) row.taskId (by simp)
    · rw [List.mem_singleton.mp here]
      exact enter_shows heap row

theorem loaded_shows (tasks : TaskTable) : (loaded tasks).Shows tasks := by
  have shown := entered_shows tasks.rows [] ⟨[], fun _ => [], fun _ => []⟩ tasks.unique (by simp)
  simpa [Shows, loaded] using shown

theorem sent_refs :
    (messages.foldl (send senderId) heap).dicts = heap.dicts ++ messages ∧
      (∀ taskId, (messages.foldl (send senderId) heap).outbox taskId =
        if taskId = senderId then
          heap.outbox taskId ++ List.range' heap.dicts.length messages.length
        else heap.outbox taskId) ∧
      (messages.foldl (send senderId) heap).inbox = heap.inbox := by
  induction messages generalizing heap with
  | nil => simp
  | cons message rest ih =>
    have later := ih (send senderId heap message)
    refine ⟨by simpa [send] using later.1, fun taskId => ?_, later.2.2⟩
    rw [List.foldl_cons, later.2.1 taskId]
    by_cases sender : taskId = senderId
    · simp [send, appendRef, sender, List.range'_succ]
    · simp [send, appendRef, sender]

theorem read_receive (ref : Nat) (refs : List Nat) :
    (receive dependentId now heap ref).read refs = heap.read refs := by
  apply List.map_congr_left
  intro wanted _
  simp only [receive, List.getElem?_modify]
  by_cases here : ref = wanted
  · cases found : heap.dicts[wanted]? with
    | none => simp
    | some message => simp [here, unstamped, stamp]
  · simp [here]

/-- One dependent's inbox gains the references, all other lists stay, and every
list reads as it did. -/
theorem received_refs :
    (refs.foldl (receive dependentId now) heap).outbox = heap.outbox ∧
      (∀ taskId, (refs.foldl (receive dependentId now) heap).inbox taskId =
        if taskId = dependentId then heap.inbox taskId ++ refs else heap.inbox taskId) ∧
      ∀ wanted, (refs.foldl (receive dependentId now) heap).read wanted = heap.read wanted := by
  induction refs generalizing heap with
  | nil => simp
  | cons ref rest ih =>
    have later := ih (receive dependentId now heap ref)
    refine ⟨later.1, fun taskId => ?_, fun wanted => ?_⟩
    · rw [List.foldl_cons, later.2.1 taskId]
      by_cases dependent : taskId = dependentId
      · simp [receive, appendRef, dependent]
      · simp [receive, appendRef, dependent]
    · rw [List.foldl_cons, later.2.2 wanted, read_receive]

-- The whole outbox goes, by reference, to each of the ids.
theorem delivered_refs (ids : List TaskId) (unique : ids.Nodup) (heap : MessageHeap) :
    (ids.foldl (deliver senderId now) heap).outbox = heap.outbox ∧
      (∀ taskId, (ids.foldl (deliver senderId now) heap).inbox taskId =
        if taskId ∈ ids then heap.inbox taskId ++ heap.outbox senderId else heap.inbox taskId) ∧
      ∀ wanted, (ids.foldl (deliver senderId now) heap).read wanted = heap.read wanted := by
  induction ids generalizing heap with
  | nil => simp
  | cons id rest ih =>
    have fresh := List.nodup_cons.mp unique
    have first := received_refs id now (heap.outbox senderId) heap
    have later := ih fresh.2 (deliver senderId now heap id)
    refine ⟨later.1.trans first.1, fun taskId => ?_, fun wanted => ?_⟩
    · rw [List.foldl_cons, later.2.1 taskId]
      simp only [deliver, first.1, first.2.1 taskId]
      by_cases here : taskId = id
      · simp [here, fresh.1]
      · simp [here]
    · rw [List.foldl_cons, later.2.2 wanted]
      exact first.2.2 wanted

end MessageHeap

namespace SmartLedger
open TaskStatus

def deliveredTo (host : Host) (ledger : SmartLedger) (taskId : TaskId) (now : Time) :
    List TaskId :=
  ((completionVisits host ledger taskId now).filter fun visit =>
    decide (visit.taskId ∈ ledger.dependentsOf taskId) &&
      (visit.before.getTask visit.taskId).isSome).map Visit.taskId

def LiveDependent (ledger : SmartLedger) (taskId id : TaskId) : Prop :=
  id ∈ ledger.dependentsOf taskId ∧ (ledger.getTask id).isSome = true

theorem Reworked.isSome {related : Task → Task → Prop} {before after : SmartLedger}
    (change : Reworked related before after) (id : TaskId) :
    (after.getTask id).isSome = (before.getTask id).isSome := by
  cases found : before.getTask id with
  | none => rw [change.getTask_none id found]
  | some old =>
    obtain ⟨new, there, _⟩ := change.getTask_some id old found
    rw [there]
    rfl

section Loop
variable {start : SmartLedger} {senderId : TaskId} {sender : Task} {direct : List TaskId}
  {now : Time}

-- No visit finds a task the loop did not start with, or misses a direct dependent.
theorem visits_direct (found : start.getTask senderId = some sender) (id : TaskId) :
    (∃ entry ∈ Worklist.visits (visitDependent senderId direct now) (start.walkFuel direct) direct
        [] (start, []), entry.2 = id ∧ id ∈ direct ∧ (entry.1.1.getTask id).isSome = true) ↔
      id ∈ direct ∧ (start.getTask id).isSome = true := by
  have handed := Worklist.walk_rule _
    (Handed now start direct (sender.messagesToDependents.map (stamp now)))
    (fun _ _ _ _ old holds => holds.drop old) (fun _ _ _ _ fresh holds => holds.step found fresh)
    (start.walkFuel direct) direct [] (start, []) Handed.begins
  have ends := start.handleTaskCompletion_ends senderId direct now
  have present (entry : (SmartLedger × List TaskId) × TaskId)
      (member : entry ∈ Worklist.visits (visitDependent senderId direct now)
        (start.walkFuel direct) direct [] (start, [])) :
      (entry.1.1.getTask id).isSome = (start.getTask id).isSome := by
    obtain ⟨_, _, _, holds⟩ := handed.2 entry member
    exact holds.rows.isSome id
  constructor
  · rintro ⟨entry, member, _, listed, there⟩
    exact ⟨listed, (present entry member).symm.trans there⟩
  · rintro ⟨listed, there⟩
    have seen := handed.1.seeds id listed
    rw [ends, Worklist.mem_visited] at seen
    simp only [List.not_mem_nil, or_false, false_or] at seen
    obtain ⟨entry, member, same⟩ := List.mem_map.mp seen
    exact ⟨entry, member, same, listed, (present entry member).trans there⟩

end Loop

variable (host : Host) (ledger : SmartLedger) (taskId : TaskId)

theorem deliveredTo_nodup (now : Time) : (deliveredTo host ledger taskId now).Nodup := by
  have visits : ((completionVisits host ledger taskId now).map Visit.taskId).Nodup := by
    simp only [completionVisits]
    cases ledger.getTask taskId with
    | none => exact List.nodup_nil
    | some task =>
      simp only [List.map_map]
      exact (Worklist.visits_nodup _ _ _ _ _).1
  exact visits.sublist (List.filter_sublist.map Visit.taskId)

theorem mem_deliveredTo (task : Task) (now : Time) (found : ledger.getTask task.taskId = some task)
    (id : TaskId) :
    id ∈ deliveredTo host ledger task.taskId now ↔ LiveDependent ledger task.taskId id := by
  have keeps := announce_keeps task now
  have row : (ledger.putTask (announce task now)).getTask task.taskId =
      some (announce task now) := by
    rw [getTask_putTask, if_pos keeps.1]
  have direct := mem_direct host (ledger.putTask (announce task now)) (announce task now)
    (by rw [keeps.1]; exact row)
  have steady := announced_steady ledger task now found
  have links := (steady.mono fun _ _ row => row.cascaded.links).dependentsOf
  rw [keeps.1, links] at direct
  have visits := @visits_direct _ _ _ ((ledger.putTask (announce task now)).completionDependencyIds
    host (announce task now)).1 now row id
  rw [direct, steady.isSome] at visits
  rw [LiveDependent, ← visits]
  simp only [deliveredTo, completionVisits, found, List.mem_map, List.mem_filter,
    Bool.and_eq_true, decide_eq_true_eq]
  constructor
  · rintro ⟨visit, ⟨⟨entry, member, rfl⟩, listed, there⟩, rfl⟩
    exact ⟨entry, member, rfl, listed, there⟩
  · rintro ⟨entry, member, rfl, listed, there⟩
    exact ⟨_, ⟨⟨entry, member, rfl⟩, listed, there⟩, rfl⟩

/-- `_handle_task_completion` as the dicts see it, from the ledger that holds the
completed task. -/
def completeHeap (host : Host) (ledger : SmartLedger) (taskId : TaskId) (result : Option Value)
    (now : Time) (heap : MessageHeap) : MessageHeap :=
  (deliveredTo host ledger taskId now).foldl (MessageHeap.deliver taskId now)
    ((createdMessages taskId result now).foldl (MessageHeap.send taskId) heap)

def heapAfter (host : Host) (ledger : SmartLedger) (task : Task) (update : StatusUpdate)
    (now : Time) (heap : MessageHeap) : MessageHeap :=
  completeHeap host (recordCompletion host ledger task update now) task.taskId update.result now
    heap

def createdRefs (taskId : TaskId) (result : Option Value) (now : Time) (heap : MessageHeap) :
    List Nat :=
  List.range' heap.dicts.length (createdMessages taskId result now).length

section Completed
variable {host : Host} {ledger : SmartLedger} {task : Task} {update : StatusUpdate} {now : Time}

theorem recordCompletion_row :
    ∃ row, (recordCompletion host ledger task update now).getTask row.taskId = some row ∧
      row.taskId = task.taskId := by
  have done := completedRow_keeps host update.result task update.transitionReason now
  refine ⟨_, ?_, done.sameId⟩
  rw [recordCompletion, getTask_putTask, if_pos rfl]

theorem liveDependent_recorded (found : ledger.getTask task.taskId = some task) (id : TaskId) :
    LiveDependent (recordCompletion host ledger task update now) task.taskId id ↔
      LiveDependent ledger task.taskId id := by
  have done := completedRow_keeps host update.result task update.transitionReason now
  have linked : Reworked SameLinks ledger (recordCompletion host ledger task update now) :=
    reworked_putTask ledger task _ (fun other _ => ⟨rfl, rfl⟩) (by rw [done.sameId, found])
      done.links
  rw [LiveDependent, LiveDependent, linked.dependentsOf, linked.isSome]

open Classical in
/-- Who refers to what after a completion: the sender to its new messages, every
live dependent to the sender's whole outbox; and the lists read as they did. -/
theorem heapAfter_refs (found : ledger.getTask task.taskId = some task) (heap : MessageHeap) :
    (∀ id, (heapAfter host ledger task update now heap).outbox id =
      if id = task.taskId then
        heap.outbox id ++ createdRefs task.taskId update.result now heap
      else heap.outbox id) ∧
      (∀ id, (heapAfter host ledger task update now heap).inbox id =
        if LiveDependent ledger task.taskId id then
          heap.inbox id ++ (heap.outbox task.taskId ++
            createdRefs task.taskId update.result now heap)
        else heap.inbox id) ∧
      ∀ refs, (heapAfter host ledger task update now heap).read refs =
        ((createdMessages task.taskId update.result now).foldl (MessageHeap.send task.taskId)
          heap).read refs := by
  obtain ⟨row, there, sameId⟩ := @recordCompletion_row host ledger task update now
  have reached := mem_deliveredTo host _ row now there
  simp only [sameId, liveDependent_recorded found] at reached
  have sent := MessageHeap.sent_refs task.taskId (createdMessages task.taskId update.result now)
    heap
  have given := MessageHeap.delivered_refs task.taskId now
    (deliveredTo host (recordCompletion host ledger task update now) task.taskId now)
    (deliveredTo_nodup host _ task.taskId now)
    ((createdMessages task.taskId update.result now).foldl (MessageHeap.send task.taskId) heap)
  refine ⟨fun id => ?_, fun id => ?_, given.2.2⟩
  · exact (congrFun given.1 id).trans (sent.2.1 id)
  · refine (given.2.1 id).trans ?_
    simp only [reached, sent.2.2, sent.2.1 task.taskId, ↓reduceIte]
    rfl

end Completed

def completionOf : LedgerOperation → Option (TaskId × StatusUpdate)
  | .updateTaskStatus taskId update =>
      if update.status = .completed then some (taskId, update) else none
  | .completeTask taskId result =>
      some (taskId,
        { status := .completed, result := result, reason := some "Task completed successfully" })
  | _ => none

structure Completes (ledger : SmartLedger) (call : LedgerCall) (task : Task)
    (update : StatusUpdate) : Prop where
  asked : completionOf call.operation = some (task.taskId, update)
  found : ledger.getTask task.taskId = some task
  done : (ledger.updateTaskStatus call.host task.taskId update call.now).1 = true

theorem Completes.performed {ledger : SmartLedger} {call : LedgerCall} {task : Task}
    {update : StatusUpdate} (completes : Completes ledger call task update) :
    update.status = .completed ∧ ledger.perform call =
      (ledger.updateTaskStatus call.host task.taskId update call.now).2 := by
  obtain ⟨operation, now, host⟩ := call
  have asked := completes.asked
  cases operation with
  | updateTaskStatus taskId given =>
    simp only [completionOf] at asked
    split at asked
    next completing =>
      cases asked
      exact ⟨completing, rfl⟩
    next => cases asked
  | completeTask taskId result =>
    cases asked
    exact ⟨rfl, rfl⟩
  | _ => simp [completionOf] at asked

/-- Each dependent gets the messages of this completion, once, and no dict it is
handed stands in another task's list, however the dicts of the process lie. -/
structure DeliveredOnce (ledger after : SmartLedger) (host : Host) (task : Task)
    (update : StatusUpdate) (now : Time) : Prop where
  exact : ∀ id old, LiveDependent ledger task.taskId id → ledger.getTask id = some old →
    ∃ new, after.getTask id = some new ∧ new.receivedMessages = old.receivedMessages ++
      (createdMessages task.taskId update.result now).map (stamp now)
  unshared : ∀ heap : MessageHeap, heap.Shows ledger.tasks →
    ∀ id other, LiveDependent ledger task.taskId id → (ledger.getTask other).isSome = true →
      id ≠ other →
      ∀ ref ∈ ((heapAfter host ledger task update now heap).inbox id).drop (heap.inbox id).length,
        ref ∉ (heapAfter host ledger task update now heap).inbox other

structure SoleFreshDependent (ledger : SmartLedger) (task : Task) : Prop where
  sole : ∀ id other, LiveDependent ledger task.taskId id →
    LiveDependent ledger task.taskId other → id = other
  fresh : ∀ id, LiveDependent ledger task.taskId id → task.messagesToDependents = []

theorem createdMessages_nonempty (result : Option Value) (now : Time) :
    0 < (createdMessages taskId result now).length := by
  simp only [createdMessages, List.length_append, List.length_cons, List.length_nil]
  omega

section Once
variable {ledger : SmartLedger} {call : LedgerCall} {task : Task} {update : StatusUpdate}

-- What a dependent has after a completion, dicts aside.
theorem dependent_received (completes : Completes ledger call task update) (id : TaskId)
    (live : LiveDependent ledger task.taskId id) (old : Task)
    (found : ledger.getTask id = some old) :
    ∃ new, (ledger.perform call).getTask id = some new ∧ new.receivedMessages =
      old.receivedMessages ++ (task.messagesToDependents ++
        createdMessages task.taskId update.result call.now).map (stamp call.now) := by
  have performed := completes.performed
  have posted := completion_posted call.host ledger task update call.now completes.found
    performed.1 completes.done
  obtain ⟨new, there, row⟩ := posted.get?_some id old found
  have named := ledger.getTask_taskId id old found
  refine ⟨new, by rw [performed.2]; exact there, ?_⟩
  rw [row.received, named, if_pos live.1]

/-- Delivery is right exactly when there is one dependent at most and nothing old to
send it again. -/
theorem deliveredOnce_iff (completes : Completes ledger call task update) :
    DeliveredOnce ledger (ledger.perform call) call.host task update call.now ↔
      SoleFreshDependent ledger task := by
  have refs (heap : MessageHeap) := @heapAfter_refs call.host ledger task update call.now
    completes.found heap
  constructor
  · intro once
    constructor
    · intro id other live live'
      by_contra apart
      have shown := MessageHeap.loaded_shows ledger.tasks
      have told := once.unshared _ shown id other live live'.2 apart
      generalize MessageHeap.loaded ledger.tasks = heap at shown told
      simp only [(refs heap).2.1, live, live', ↓reduceIte, List.drop_left] at told
      -- Both hold the first of the new messages.
      have first : heap.dicts.length ∈ createdRefs task.taskId update.result call.now heap := by
        have some := createdMessages_nonempty task.taskId update.result call.now
        rw [createdRefs, List.mem_range'_1]
        omega
      have given : heap.dicts.length ∈ heap.outbox task.taskId ++
          createdRefs task.taskId update.result call.now heap := List.mem_append_right _ first
      exact told _ given (List.mem_append_right _ given)
    · intro id live
      obtain ⟨old, found⟩ := Option.isSome_iff_exists.mp live.2
      obtain ⟨new, there, exactly⟩ := once.exact id old live found
      obtain ⟨same, again, received⟩ := dependent_received completes id live old found
      have this : same = new := Option.some.inj (again.symm.trans there)
      rw [this, exactly] at received
      have lengths := congrArg List.length received
      simp only [List.length_append, List.length_map] at lengths
      exact List.eq_nil_of_length_eq_zero (by omega)
  · intro sole
    constructor
    · intro id old live found
      obtain ⟨new, there, received⟩ := dependent_received completes id live old found
      refine ⟨new, there, ?_⟩
      rw [received, sole.fresh id live, List.nil_append]
    · intro heap shown id other live there apart ref handed held
      have alone : ¬ LiveDependent ledger task.taskId other :=
        fun live' => apart (sole.sole id other live live')
      obtain ⟨row, found⟩ := Option.isSome_iff_exists.mp there
      have member := KeyedTable.Table.get?_mem ledger.tasks other row found
      have named := ledger.getTask_taskId other row found
      have sender := shown task
        (KeyedTable.Table.get?_mem ledger.tasks task.taskId task completes.found)
      have empty : heap.outbox task.taskId = [] := by
        have reads := sender.outbox
        rw [sole.fresh id live] at reads
        exact List.map_eq_nil_iff.mp reads
      simp only [(refs heap).2.1, live, alone, ↓reduceIte, List.drop_left, empty,
        List.nil_append] at handed held
      -- What is new is newer than anything another task holds.
      have old := MessageHeap.lt_of_read heap _ _ (shown row member).inbox ref (named ▸ held)
      rw [createdRefs, List.mem_range'_1] at handed
      omega

end Once

/-- Along a run, each completion delivers its own messages once and unshared exactly
when each completed task then has one dependent at most and has sent nothing before. -/
theorem messages_delivered_once_iff (verdict : Nat → Verdict) (run : List LedgerCall) :
    StepSystem.Along perform (fun ledger call => ∀ task update,
        Completes ledger call task update →
          DeliveredOnce ledger (ledger.perform call) call.host task update call.now)
        (opened verdict) run ↔
      StepSystem.Along perform (fun ledger call => ∀ task update,
        Completes ledger call task update → SoleFreshDependent ledger task)
        (opened verdict) run := by
  apply StepSystem.along_congr
  intro ledger call
  constructor
  · intro once task update completes
    exact (deliveredOnce_iff completes).mp (once task update completes)
  · intro sole task update completes
    exact (deliveredOnce_iff completes).mpr (sole task update completes)

def completedTwice : List LedgerCall :=
  let update (status : Status) : StatusUpdate := { status := status }
  [.addTask (Task.create "a" "first" .autonomous 0) false,
    .addTask { Task.create "b" "second" .autonomous 0 with prerequisites := ["a"] } false,
    .updateTaskStatus "a" (update .inProgress), .updateTaskStatus "a" (update .completed),
    .reopenTask "a" "regression" false, .updateTaskStatus "a" (update .inProgress),
    .updateTaskStatus "a" (update .completed)].map fun operation => ⟨operation, 1, sampleHost⟩

def rerunning : SmartLedger :=
  StepSystem.final perform (opened fun _ => .accepted) (completedTwice.take 6)

/-- The second completion hands over the notice of the first as well. -/
theorem second_completion_repeats :
    ¬ StepSystem.Along perform (fun ledger call => ∀ task update,
        Completes ledger call task update →
          DeliveredOnce ledger (ledger.perform call) call.host task update call.now)
        (opened fun _ => .accepted) completedTwice := by
  rintro ⟨_, _, _, _, _, _, last, _⟩
  obtain ⟨task, found⟩ : ∃ task, rerunning.getTask "a" = some task := ⟨_, rfl⟩
  have delivered := last task { status := .completed }
  cases found
  have once := delivered ⟨rfl, rfl, rfl⟩
  have waiting : LiveDependent rerunning "a" "b" := by
    constructor
    · decide
    · rfl
  obtain ⟨new, there, received⟩ := once.exact "b" _ waiting rfl
  cases there
  have lengths := congrArg List.length received
  revert lengths
  decide

end SmartLedger

end Hartos
