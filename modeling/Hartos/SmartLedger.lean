import Hartos.Task
import Hartos.Worklist
import Mathlib.Data.List.Dedup

/-!
The ledger of one process: its tasks in memory, its event list, and the backend
its saves go to. A backend answers each write with a verdict of its own choosing;
quantifying over the verdicts is quantifying over every backend behaviour. A
message delivered to several tasks is copied here, where Python shares one dict;
`receivedAt` of a copy delivered earlier therefore keeps its first time. Links
are only ever added, so all who share a message depend on its sender.
-/
namespace Hartos
open TaskStatus KeyedTable

abbrev TaskTable := Table Task.taskId

inductive Verdict where
  | accepted
  | rejected
  | raised
  deriving DecidableEq

/-- What a save writes: the whole ledger, as `to_dict` lays it out. -/
structure LedgerImage where
  taskOrder : List TaskId
  tasks : TaskTable
  deriving DecidableEq

structure Backend where
  stored : Option LedgerImage
  verdict : Nat → Verdict
  writes : Nat

namespace Backend

def next (backend : Backend) : Verdict := backend.verdict backend.writes

def save (backend : Backend) (image : LedgerImage) : Verdict × Backend :=
  (backend.next,
    { backend with
      stored := if backend.next = .accepted then some image else backend.stored
      writes := backend.writes + 1 })

end Backend

inductive EventData where
  | taskAutoResumed (taskId trigger : TaskId)
  | taskCompleted (taskId : TaskId) (result : Option Value) (autoResumedTasks : List TaskId)
  | taskDelegated (taskId : TaskId) (toAgent : AgentId) (delegationType : String)
  | taskRolledBack (taskId : TaskId) (reason : String) (originalResult : Option Value)
  deriving DecidableEq

structure LedgerEvent where
  timestamp : Time
  data : EventData
  deriving DecidableEq

inductive Broadcast where
  | taskUpdate (taskId : TaskId) (oldStatus newStatus : Status) (resultHash : Option String)
  | delegation (taskId : TaskId) (toAgent : AgentId)
  deriving DecidableEq

structure SmartLedger where
  tasks : TaskTable
  taskOrder : List TaskId
  events : List LedgerEvent
  loadedTaskIds : List TaskId
  pubsub : Bool
  published : List Broadcast
  backend : Backend

structure SetOrder where
  list : List TaskId → List TaskId
  mem_list : ∀ ids id, id ∈ list ids ↔ id ∈ ids
  nodup : ∀ ids, (list ids).Nodup

def SetOrder.insertion : SetOrder where
  list := List.dedup
  mem_list := fun _ _ => List.mem_dedup
  nodup := List.nodup_dedup

/-- What the code takes from outside it. `resultHash` is `compute_result_hash`,
`none` where serialising the result raises; `text` is what `str` makes of a
value; `orphanAfter` is the setting HEVOLVE_TASK_ORPHAN_AFTER_S. -/
structure Host where
  resultHash : Value → Option String
  setOrder : SetOrder
  text : Value → String := fun _ => ""
  orphanAfter : Time := seconds 600

namespace SmartLedger
variable (ledger : SmartLedger) (taskId : TaskId) (host : Host)

def getTask : Option Task := ledger.tasks.get? taskId

def putTask (task : Task) : SmartLedger :=
  { ledger with tasks := ledger.tasks.set task }

def modifyTask (change : Task → Task) : SmartLedger :=
  match ledger.getTask taskId with
  | none => ledger
  | some task => ledger.putTask (change task)

def image : LedgerImage := ⟨ledger.taskOrder, ledger.tasks⟩

/-- `save`: a rejected write and a backend exception are both reported as False. -/
def save (ledger : SmartLedger) : Bool × SmartLedger :=
  (decide (ledger.backend.next = .accepted),
    { ledger with backend := (ledger.backend.save ledger.image).2 })

/-- `load`, as `__init__` calls it: the stored ledger, or an empty one. -/
def load (pubsub : Bool) (backend : Backend) : SmartLedger :=
  match backend.stored with
  | some saved =>
      { tasks := saved.tasks, taskOrder := saved.taskOrder, events := [],
        loadedTaskIds := saved.tasks.keys, pubsub := pubsub, published := [], backend := backend }
  | none =>
      { tasks := Table.empty Task.taskId, taskOrder := [], events := [], loadedTaskIds := [],
        pubsub := pubsub, published := [], backend := backend }

def keepRecent (events : List LedgerEvent) : List LedgerEvent :=
  if events.length > 100 then events.drop (events.length - 100) else events

def broadcastFor : EventData → List Broadcast
  | .taskCompleted taskId _ _ =>
      [.taskUpdate taskId .inProgress .completed
        ((ledger.getTask taskId).bind fun task => task.context.resultHash)]
  | .taskDelegated taskId toAgent _ => [.delegation taskId toAgent]
  | _ => []

def generateEvent (data : EventData) (now : Time) : SmartLedger :=
  { ledger with
    events := keepRecent (ledger.events ++ [⟨now, data⟩])
    published :=
      if ledger.pubsub then ledger.published ++ ledger.broadcastFor data else ledger.published }

def emitCompletionEvents (autoResumed : List TaskId) (now : Time) : SmartLedger :=
  let resumed := autoResumed.foldl
    (fun current id => current.generateEvent (.taskAutoResumed id taskId) now) ledger
  resumed.generateEvent
    (.taskCompleted taskId ((ledger.getTask taskId).bind Task.result) autoResumed) now

def reversePrerequisites : List TaskId :=
  (ledger.tasks.rows.filter fun task => taskId ∈ task.prerequisites).map Task.taskId

def dependentsOf : List TaskId :=
  match ledger.getTask taskId with
  | none => []
  | some task => task.dependentTaskIds ++ ledger.reversePrerequisites taskId

def walkFuel (ids : List TaskId) : Nat :=
  ids.length +
    Worklist.budget (fun id => (ledger.dependentsOf id).length) [] ledger.tasks.keys

def completionDependencyIds (ledger : SmartLedger) (task : Task) : List TaskId × List TaskId :=
  let direct := host.setOrder.list
    (task.dependentTaskIds ++ ledger.reversePrerequisites task.taskId)
  (direct,
    (Worklist.collect ledger.dependentsOf (ledger.walkFuel direct) direct).visited)

/-- `receive_message` for each message of the sender. Receiving stamps the
message, which the sender's own list holds as well. -/
def deliver (senderId dependentId : TaskId) (now : Time) : SmartLedger :=
  match ledger.getTask senderId with
  | none => ledger
  | some sender =>
      let stamped := sender.messagesToDependents.map fun m => { m with receivedAt := some now }
      (ledger.putTask { sender with messagesToDependents := stamped }).modifyTask dependentId
        fun dependent => dependent.receiveMessages stamped now

def visitDependent (senderId : TaskId) (direct : List TaskId) (now : Time)
    (state : SmartLedger × List TaskId) (dependentId : TaskId) :
    (SmartLedger × List TaskId) × List TaskId :=
  match state.1.getTask dependentId with
  | none => (state, [])
  | some _ =>
      let delivered :=
        if dependentId ∈ direct then state.1.deliver senderId dependentId now else state.1
      let released := delivered.modifyTask dependentId fun d => d.removeBlockingTask senderId now
      match released.getTask dependentId with
      | none => ((released, state.2), [])
      | some dependent =>
          if dependent.status = .blocked ∧ dependent.isBlocked = false then
            match dependent.resume s!"Auto-resume: dependency {senderId} completed" now with
            | none => ((released, state.2), [])
            | some resumed =>
                -- A resumed task's own dependents are looked at next.
                let after := released.putTask resumed
                ((after, state.2 ++ [dependentId]),
                  resumed.dependentTaskIds ++ after.reversePrerequisites dependentId)
          else ((released, state.2), [])

def announce (task : Task) (now : Time) : Task :=
  let withResult := match task.result with
    | some data => task.sendMessageToDependents (.result data .completed) now
    | none => task
  withResult.sendMessageToDependents (.completion task.completedAt) now

def handleTaskCompletion (ledger : SmartLedger) (taskId : TaskId) (now : Time) :
    SmartLedger × List TaskId :=
  match ledger.getTask taskId with
  | none => (ledger, [])
  | some task =>
      let announced := ledger.putTask (announce task now)
      let direct := (announced.completionDependencyIds host (announce task now)).1
      (Worklist.walk (visitDependent taskId direct now) (announced.walkFuel direct) direct []
        (announced, [])).state

/-- Whether `add_task` takes this id: it is free, or names a finished task that
came from an earlier process. -/
def acceptsId : Bool :=
  match ledger.getTask taskId with
  | none => true
  | some existing => existing.isTerminal && decide (taskId ∈ ledger.loadedTaskIds)

def insertTask (task : Task) : Option SmartLedger :=
  if ledger.acceptsId task.taskId then
    some { ledger with
      loadedTaskIds := ledger.loadedTaskIds.filter (· ≠ task.taskId)
      tasks := ledger.tasks.set task
      taskOrder :=
        if task.taskId ∈ ledger.taskOrder then ledger.taskOrder
        else ledger.taskOrder ++ [task.taskId] }
  else none

def addTask (task : Task) (deferSave : Bool) : Bool × SmartLedger :=
  match ledger.insertTask task with
  | none => (false, ledger)
  | some inserted => (true, if deferSave then inserted else inserted.save.2)

/-- The optional arguments of `update_task_status`. -/
structure StatusUpdate where
  status : Status
  errorMessage : Option String := none
  result : Option Value := none
  reason : Option String := none
  deferSave : Bool := false

def nonEmpty (text : Option String) : Bool :=
  match text with
  | none => false
  | some s => s ≠ ""

def StatusUpdate.transitionReason (update : StatusUpdate) : String :=
  match update.reason with
  | some reason => if reason ≠ "" then reason else s!"Status updated to {update.status.value}"
  | none => s!"Status updated to {update.status.value}"

def completeFields (result : Option Value) (task : Task) : Task :=
  { task with
    completedAt := some task.updatedAt
    result := result
    context := match result.bind host.resultHash with
      | some hash => { task.context with resultHash := some hash }
      | none => task.context }

def finishFields (update : StatusUpdate) (now : Time) (task : Task) : Task :=
  let started :=
    if update.status = .inProgress ∧ task.startedAt = none then
      { task with startedAt := some now }
    else task
  if nonEmpty update.errorMessage then { started with errorMessage := update.errorMessage }
  else started

/-- Everything `update_task_status` does in memory once the transition is valid. -/
def stageStatus (ledger : SmartLedger) (task : Task) (update : StatusUpdate) (now : Time) :
    SmartLedger × List TaskId :=
  let recorded := task.recordStateTransition update.status update.transitionReason now
  let cascaded :=
    if update.status = .completed then
      (ledger.putTask (completeFields host update.result recorded)).handleTaskCompletion host
        task.taskId now
    else (ledger.putTask recorded, [])
  (cascaded.1.modifyTask task.taskId (finishFields update now), cascaded.2)

def snapshotIds (ledger : SmartLedger) (task : Task) (status : Status) : List TaskId :=
  if status = .completed then task.taskId :: (ledger.completionDependencyIds host task).2
  else [task.taskId]

def restoreTasks (before : SmartLedger) (ids : List TaskId) (ledger : SmartLedger) : SmartLedger :=
  ids.foldl
    (fun current id => match before.getTask id with
      | none => current
      | some copy => current.modifyTask id fun _ => copy)
    ledger

def updateTaskStatus (ledger : SmartLedger) (taskId : TaskId) (update : StatusUpdate) (now : Time) :
    Bool × SmartLedger :=
  match ledger.getTask taskId with
  | none => (false, ledger)
  | some task =>
      -- Completion owns its write; it cannot be part of a deferred batch.
      if update.deferSave ∧ update.status = .completed then (false, ledger)
      else if task.validateTransition update.status then
        let staged := stageStatus host ledger task update now
        if update.deferSave then (true, staged.1)
        else
          let saved := staged.1.save
          if saved.1 then
            (true,
              if update.status = .completed then
                saved.2.emitCompletionEvents taskId staged.2 now
              else saved.2)
          else
            (false,
              -- The lists of events and broadcasts have not been touched: events come after the save.
              { restoreTasks ledger (ledger.snapshotIds host task update.status) saved.2 with
                events := ledger.events })
      else (false, ledger)

end SmartLedger

end Hartos
