import Hartos.JsonBackend
import Hartos.KeyedTable
import Hartos.TaskRecord
import Mathlib.Data.List.Infix

/-!
A ledger opened on a directory of files: `load` turns a stored dictionary into
tasks, `save` turns the tasks into a dictionary, `add_task` saves after it added.
A load that fails anywhere starts an empty ledger, under the same key.
-/
namespace Hartos
open JsonBackend KeyedTable TaskStatus

abbrev RecordTable := Table (Prod.fst : String × TaskRecord → String)

structure OpenLedger where
  name : LedgerName
  tasks : RecordTable
  taskOrder : Json
  loadedTaskIds : List String
  unmarked : Bool

structure SaveWeather where
  now : String
  fault : Option SaveFault
  markWritten : Bool

inductive Reply where
  | raised
  | answered (ok : Bool)
  deriving DecidableEq

namespace OpenLedger

def blank (name : LedgerName) : OpenLedger :=
  { name := name
    tasks := Table.empty _
    taskOrder := .array []
    loadedTaskIds := []
    unmarked := false }

def readTask (now : String) : String × Json → Option (String × TaskRecord)
  | (taskId, .object fields) => (TaskRecord.fromDict fields now).map (taskId, ·)
  | _ => none

def collect (rows : List (String × TaskRecord)) : RecordTable :=
  rows.foldl Table.set (Table.empty _)

/-- The body of `load`: `none` is an exception. -/
def decode (data : Json) (now : String) : Option (RecordTable × Json) :=
  match data with
  | .object fields =>
      match Fields.getD fields "tasks" (.object []) with
      | .object items => do
          let tasks := collect (← items.mapM (readTask now))
          return (tasks, Fields.getD fields "task_order" (.array (tasks.keys.map .text)))
      | _ => none
  | _ => none

def load (name : LedgerName) (dir : Directory Json) (readable : Bool) (now : String) : OpenLedger :=
  match dir.load name.key readable with
  | none => blank name
  | some data =>
      if data.truthy then
        match decode data now with
        | some (tasks, order) =>
            { blank name with tasks := tasks, taskOrder := order, loadedTaskIds := tasks.keys }
        | none => blank name
      else blank name

def listOf : Json → Option (List Json)
  | .array items => some items
  | .object fields => some (fields.map fun field => .text field.1)
  | .text s => some (s.toList.map fun c => .text (String.singleton c))
  | _ => none

variable (ledger : OpenLedger) (taskId : String)

def imageFields (order : List Json) (now : String) : Fields :=
  [("agent_id", .text ledger.name.agentId), ("session_id", .text ledger.name.sessionId),
    ("last_updated", .text now), ("task_order", .array order),
    ("tasks", .object (ledger.tasks.rows.map fun row => (row.1, .object row.2.toDict)))]

def image (order : List Json) (now : String) : Json :=
  .object (ledger.imageFields order now)

def hasWorkInProgress : Bool :=
  ledger.tasks.rows.any fun row => row.2.status = .inProgress

def markInProgress (dir : Directory Json) (on written : Bool) : OpenLedger × Directory Json :=
  if !on && ledger.unmarked then (ledger, dir)
  else if written then
    ({ ledger with unmarked := !on }, dir.mark (markPath ledger.name.key) on)
  else (ledger, dir)

def save (ledger : OpenLedger) (dir : Directory Json) (weather : SaveWeather) :
    Reply × OpenLedger × Directory Json :=
  match listOf ledger.taskOrder with
  | none => (.raised, ledger, dir)
  | some order =>
      let data := ledger.image order weather.now
      let busy := ledger.hasWorkInProgress
      let marked :=
        if busy then ledger.markInProgress dir true weather.markWritten else (ledger, dir)
      let saved := marked.2.save ledger.name.key data weather.fault
      if !saved.1 then (.answered false, marked.1, saved.2)
      else if busy then (.answered true, marked.1, saved.2)
      else (.answered true, marked.1.markInProgress saved.2 false weather.markWritten)

structure NewTask where
  taskId : String
  record : TaskRecord
  named : record.taskId = .text taskId

def listed : Json → Option Bool
  | .array items => some (items.any fun item =>
      match item with
      | .text id => id = taskId
      | _ => false)
  | .object fields => some (fields.any (·.1 = taskId))
  | .text s => some (decide (taskId.toList <:+: s.toList))
  | _ => none

def enlist (order : Json) : Option Json :=
  match listed taskId order with
  | none => none
  | some true => some order
  | some false =>
      match order with
      | .array items => some (.array (items ++ [.text taskId]))
      | _ => none

def refuses : Bool :=
  match ledger.tasks.get? taskId with
  | none => false
  | some (_, existing) =>
      !(isTerminalState existing.status && decide (taskId ∈ ledger.loadedTaskIds))

def addTask (dir : Directory Json) (task : NewTask) (deferSave : Bool) (weather : SaveWeather) :
    Reply × OpenLedger × Directory Json :=
  if ledger.refuses task.taskId then (.answered false, ledger, dir)
  else
    let inserted := { ledger with
      tasks := ledger.tasks.set (task.taskId, task.record)
      loadedTaskIds := ledger.loadedTaskIds.filter (· ≠ task.taskId) }
    match enlist task.taskId ledger.taskOrder with
    | none => (.raised, inserted, dir)
    | some order =>
        let ordered := { inserted with taskOrder := order }
        if deferSave then (.answered true, ordered, dir)
        else
          let saved := ordered.save dir weather
          (if saved.1 = .raised then .raised else .answered true, saved.2)

variable (item : String × Json) (name : LedgerName) (ledger : OpenLedger) (order : List Json)
  (now : String) (rows : List (String × TaskRecord)) (dir : Directory Json) (task : NewTask)
variable (default : Json) (readable : Bool) (on written : Bool) (table : RecordTable)
  (weather : SaveWeather)

theorem foldl_set_rows (unique : ((table.rows ++ rows).map Prod.fst).Nodup) :
    (rows.foldl Table.set table).rows = table.rows ++ rows := by
  induction rows generalizing table with
  | nil => simp
  | cons row rest ih =>
    have absent : row.1 ∉ table.rows.map Prod.fst := by
      intro present
      rw [List.map_append, List.map_cons] at unique
      exact (List.nodup_append.mp unique).2.2 _ present _ List.mem_cons_self rfl
    have grown := table.rows_set_absent row absent
    have regrouped : (table.set row).rows ++ rest = table.rows ++ row :: rest := by
      rw [grown, List.append_assoc, List.singleton_append]
    rw [List.foldl_cons, ih (table.set row) (by rw [regrouped]; exact unique), regrouped]

theorem collect_rows : collect table.rows = table := by
  have rows : (collect table.rows).rows = table.rows :=
    foldl_set_rows table.rows (Table.empty _) table.unique
  cases found : collect _
  rw [found] at rows
  cases rows
  rfl

theorem readTask_written (row : String × TaskRecord) :
    readTask now (row.1, .object row.2.toDict) = some row := by
  rw [readTask, TaskRecord.fromDict_toDict, Option.map_some]

theorem tasks_read :
    (rows.map fun row => (row.1, Json.object row.2.toDict)).mapM (readTask now) = some rows := by
  induction rows with
  | nil => rfl
  | cons row rest ih =>
    rw [List.map_cons, List.mapM_cons, readTask_written, ih]
    rfl

theorem imageFields_tasks :
    Fields.getD (ledger.imageFields order now) "tasks" default =
      .object (ledger.tasks.rows.map fun row => (row.1, .object row.2.toDict)) := by
  simp [imageFields, Fields.getD, TaskRecord.read_cons]

theorem imageFields_order :
    Fields.getD (ledger.imageFields order now) "task_order" default = .array order := by
  simp [imageFields, Fields.getD, TaskRecord.read_cons]

theorem decode_image (saved now : String) :
    decode (ledger.image order saved) now = some (ledger.tasks, .array order) := by
  rw [image, decode, imageFields_tasks]
  simp only [tasks_read, imageFields_order]
  rw [Option.bind_eq_bind, Option.bind_some, collect_rows]
  rfl

theorem load_image (saved now : String)
    (found : dir.load ledger.name.key true = some (ledger.image order saved)) :
    load ledger.name dir true now =
      { blank ledger.name with
        tasks := ledger.tasks, taskOrder := .array order, loadedTaskIds := ledger.tasks.keys } := by
  have nonempty : (ledger.image order saved).truthy = true := rfl
  simp only [load, found, nonempty, if_true, decode_image]

theorem markInProgress_files : (ledger.markInProgress dir on written).2.files = dir.files := by
  unfold markInProgress
  split
  · rfl
  · cases written with
    | true => exact Directory.mark_files dir _ on
    | false => rfl

theorem save_file (ordered : listOf ledger.taskOrder = some order)
    (healthy : weather.fault = none) :
    (ledger.save dir weather).1 = .answered true ∧
      (ledger.save dir weather).2.2.files (getPath ledger.name.key) =
        some (.data (ledger.image order weather.now)) := by
  simp only [save, ordered, healthy, Directory.save]
  cases busy : ledger.hasWorkInProgress with
  | true => exact ⟨rfl, Directory.put_same _ _ _⟩
  | false =>
    simp only [Bool.not_true, Bool.false_eq_true, if_false, markInProgress_files, true_and]
    exact Directory.put_same _ _ _

theorem load_file (key : String) (dir : Directory Json) (data : Json)
    (held : dir.files (getPath key) = some (.data data)) : dir.load key true = some data := by
  simp [Directory.load, held]

inductive Reachable : OpenLedger → Prop where
  | created (name : LedgerName) : Reachable (blank name)
  | reopened (ledger : OpenLedger) (order : List Json) (dir : Directory Json) (saved now : String)
      (earlier : Reachable ledger) (ordered : listOf ledger.taskOrder = some order)
      (found : dir.load ledger.name.key true = some (ledger.image order saved)) :
      Reachable (load ledger.name dir true now)
  | added (ledger : OpenLedger) (dir : Directory Json) (task : NewTask) (deferSave : Bool)
      (weather : SaveWeather) (earlier : Reachable ledger) :
      Reachable (ledger.addTask dir task deferSave weather).2.1
  | saved (ledger : OpenLedger) (dir : Directory Json) (weather : SaveWeather)
      (earlier : Reachable ledger) : Reachable (ledger.save dir weather).2.1
  | changed (ledger : OpenLedger) (tasks : RecordTable) (order : List String)
      (earlier : Reachable ledger) :
      Reachable { ledger with tasks := tasks, taskOrder := .array (order.map .text) }

theorem markInProgress_order :
    (ledger.markInProgress dir on written).1.taskOrder = ledger.taskOrder := by
  unfold markInProgress
  split
  · rfl
  · split <;> rfl

theorem save_order : (ledger.save dir weather).2.1.taskOrder = ledger.taskOrder := by
  unfold save
  cases listOf ledger.taskOrder with
  | none => rfl
  | some order =>
    cases ledger.hasWorkInProgress with
    | true =>
      simp only [if_true]
      split <;> exact markInProgress_order ledger dir true weather.markWritten
    | false =>
      simp only [Bool.false_eq_true, if_false]
      split
      · rfl
      · exact markInProgress_order ledger _ false weather.markWritten

theorem enlist_array (taskId : String) (items : List Json) :
    ∃ longer, enlist taskId (.array items) = some (.array longer) := by
  cases known : listed taskId (.array items) with
  | none => simp [listed] at known
  | some present =>
    rw [enlist, known]
    cases present with
    | true => exact ⟨items, rfl⟩
    | false => exact ⟨items ++ [.text taskId], rfl⟩

theorem addTask_order (deferSave : Bool) (weather : SaveWeather) (items : List Json)
    (ordered : ledger.taskOrder = .array items) :
    ∃ longer, (ledger.addTask dir task deferSave weather).2.1.taskOrder = .array longer := by
  obtain ⟨longer, enlisted⟩ := enlist_array task.taskId items
  unfold addTask
  split
  · exact ⟨items, ordered⟩
  · simp only [ordered, enlisted]
    cases deferSave with
    | true => exact ⟨longer, rfl⟩
    | false => exact ⟨longer, save_order _ dir weather⟩

theorem Reachable.ordered (reachable : Reachable ledger) :
    ∃ items, ledger.taskOrder = .array items := by
  induction reachable with
  | created name => exact ⟨[], rfl⟩
  | reopened ledger order dir saved now earlier ordered found ih =>
    rw [load_image ledger order dir saved now found]
    exact ⟨order, rfl⟩
  | added ledger dir task deferSave weather earlier ih =>
    obtain ⟨items, ordered⟩ := ih
    exact addTask_order ledger dir task deferSave weather items ordered
  | saved ledger dir weather earlier ih => rw [save_order]; exact ih
  | changed ledger tasks order earlier ih => exact ⟨_, rfl⟩

/-- Opening what a save wrote gives the tasks back, every field of each and in the
same order, and the same task order; and a record survives its own dictionary. -/
theorem saved_opens (ledger : OpenLedger) (reachable : Reachable ledger) (dir : Directory Json)
    (weather : SaveWeather) (healthy : weather.fault = none) (now : String) :
    (ledger.save dir weather).1 = .answered true ∧
    (load ledger.name (ledger.save dir weather).2.2 true now).tasks = ledger.tasks ∧
    (load ledger.name (ledger.save dir weather).2.2 true now).taskOrder = ledger.taskOrder ∧
    ∀ task : TaskRecord, (TaskRecord.fromDict task.toDict now).map TaskRecord.toDict =
      some task.toDict := by
  obtain ⟨items, ordered⟩ := reachable.ordered
  have listed : listOf ledger.taskOrder = some items := by rw [ordered]; rfl
  obtain ⟨answered, held⟩ := save_file ledger items dir weather listed healthy
  have opened := load_image ledger items (ledger.save dir weather).2.2 weather.now now
    (load_file _ _ _ held)
  rw [opened]
  exact ⟨answered, rfl, ordered.symm, fun task => TaskRecord.toDict_fromDict task now⟩

def plainTask (taskId : String) : NewTask where
  taskId := taskId
  record := TaskRecord.init (.text taskId) .null .preAssigned .sequential .pending .null .null
    (.number 50) .null ""
  named := rfl

def withFirst (name : LedgerName) (task : NewTask) : OpenLedger :=
  { blank name with
    tasks := (Table.empty _).set (task.taskId, task.record)
    taskOrder := .array [.text task.taskId] }

def calm : SaveWeather := { now := "", fault := none, markWritten := true }

def emptyFolder : Directory Json := ⟨fun _ => none, fun _ => false⟩

def collectPages : TaskRecord :=
  { (plainTask "collect").record with
    status := .completed
    description := .text "collect the pages"
    result := .object [("pages", .number 12)]
    stateHistory := .array [.object [("status", .text "completed"), ("reason", .text "done")]]
    dependentTaskIds := .array [.text "bind"]
    completedAt := .text "2024-01-01T00:00:05" }

def bindPages : TaskRecord :=
  { (plainTask "bind").record with
    status := .blocked
    priority := .number 80
    prerequisites := .array [.text "collect"]
    context := .object [("goal_type", .text "report"), ("hop", .number 1)]
    blockedBy := .array [.text "collect"]
    sparkBudget := .number (5 / 2)
    prerequisitesKept := rfl
    contextKept := rfl }

def twoTasks : OpenLedger :=
  let first := ((blank ⟨"a", "b"⟩).addTask emptyFolder ⟨"collect", collectPages, rfl⟩ true calm).2.1
  (first.addTask emptyFolder ⟨"bind", bindPages, rfl⟩ false calm).2.1

theorem two_saved_open :
    let opened := load ⟨"a", "b"⟩ (twoTasks.save emptyFolder calm).2.2 true ""
    twoTasks.tasks.keys = ["collect", "bind"] ∧ opened.tasks = twoTasks.tasks ∧
      opened.taskOrder = twoTasks.taskOrder := by
  have reachable : Reachable twoTasks := .added _ _ _ _ _ (.added _ _ _ _ _ (.created _))
  have opens := saved_opens twoTasks reachable emptyFolder calm rfl ""
  exact ⟨rfl, opens.2.1, opens.2.2.1⟩

/-- An exception while reading, in the backend or in `load`. -/
def openingFails (name : LedgerName) (dir : Directory Json) (readable : Bool) (now : String) :
    Bool :=
  match dir.files (getPath name.key) with
  | none => false
  | some .garbled => true
  | some (.data data) => !readable || (data.truthy && (decode data now).isNone)

def storedTasks (name : LedgerName) (dir : Directory Json) : List (String × Json) :=
  match dir.files (getPath name.key) with
  | some (.data (.object fields)) =>
      match Fields.getD fields "tasks" (.object []) with
      | .object items => items
      | _ => []
  | _ => []

def WellFormed (item : String × Json) : Prop := ∀ now, (readTask now item).isSome = true

def Sound (name : LedgerName) (dir : Directory Json) (readable : Bool) : Prop :=
  match dir.files (getPath name.key) with
  | none => True
  | some .garbled => False
  | some (.data data) =>
      readable = true ∧ (data.truthy = false ∨ ∃ fields items, data = .object fields ∧
        Fields.getD fields "tasks" (.object []) = .object items ∧ ∀ item ∈ items, WellFormed item)

structure Addition where
  task : NewTask
  deferSave : Bool
  weather : SaveWeather

def addAll (ledger : OpenLedger) (dir : Directory Json) :
    List Addition → OpenLedger × Directory Json
  | [] => (ledger, dir)
  | addition :: rest =>
      let added := ledger.addTask dir addition.task addition.deferSave addition.weather
      addAll added.2.1 added.2.2 rest

def KeepsStored (name : LedgerName) (dir : Directory Json) (ledger : OpenLedger) : Prop :=
  ∀ additions, ∀ item ∈ storedTasks name dir, WellFormed item →
    item ∈ storedTasks name (ledger.addAll dir additions).2

theorem fromDict_clock (fields : Fields) (now later : String) :
    (TaskRecord.fromDict fields now).isSome = (TaskRecord.fromDict fields later).isSome := by
  unfold TaskRecord.fromDict
  cases fields.lookup "task_id" with
  | none => rfl
  | some taskId =>
  cases fields.lookup "description" with
  | none => rfl
  | some description =>
  cases (fields.lookup "task_type").bind TaskType.ofJson with
  | none => rfl
  | some taskType =>
  cases (fields.lookup "execution_mode").bind ExecutionMode.ofJson with
  | none => rfl
  | some executionMode =>
  cases (fields.lookup "status").bind Status.ofJson with
  | none => rfl
  | some status => rfl

theorem readTask_clock (now later : String) :
    (readTask now item).isSome = (readTask later item).isSome := by
  obtain ⟨taskId, entry⟩ := item
  cases entry with
  | object fields => simp only [readTask, Option.isSome_map, fromDict_clock fields now later]
  | _ => rfl

theorem wellFormed_iff : WellFormed item ↔ (readTask now item).isSome = true := by
  constructor
  · intro wellFormed
    exact wellFormed now
  · intro read other
    rw [readTask_clock item other now, read]

theorem mapM_isSome (items : List (String × Json)) :
    (items.mapM (readTask now)).isSome = true ↔ ∀ item ∈ items, WellFormed item := by
  induction items with
  | nil => simp
  | cons item rest ih =>
    rw [List.mapM_cons, List.forall_mem_cons, wellFormed_iff item now, ← ih]
    cases readTask now item with
    | none => simp
    | some row =>
      cases rest.mapM (readTask now) <;> simp

theorem decode_isSome (data : Json) (now : String) :
    (decode data now).isSome = true ↔ ∃ fields items, data = .object fields ∧
      Fields.getD fields "tasks" (.object []) = .object items ∧ ∀ item ∈ items, WellFormed item := by
  cases data with
  | object fields =>
    cases tasks : Fields.getD fields "tasks" (.object []) with
    | object items =>
      have read := mapM_isSome now items
      simp only [decode, tasks, Json.object.injEq, exists_and_left, exists_eq_left']
      rw [← read]
      cases items.mapM (readTask now) <;> simp
    | _ => simp [decode, tasks]
  | _ => simp [decode]

theorem openingFails_iff (now : String) :
    openingFails name dir readable now = true ↔ ¬ Sound name dir readable := by
  unfold openingFails Sound
  cases dir.files (getPath name.key) with
  | none => simp
  | some contents =>
    cases contents with
    | garbled => simp
    | data data =>
      simp only [← decode_isSome data now]
      cases readable <;> cases data.truthy <;> cases decode data now <;> simp

theorem load_failed (now : String) (failed : openingFails name dir readable now = true) :
    load name dir readable now = blank name := by
  unfold openingFails at failed
  unfold load Directory.load
  cases held : dir.files (getPath name.key) with
  | none => rfl
  | some contents =>
    cases contents with
    | garbled => rfl
    | data data =>
      cases readable with
      | false => rfl
      | true =>
        cases truth : data.truthy <;> cases read : decode data now <;>
          simp_all

theorem storedTasks_image (ledger : OpenLedger) (order : List Json) (now : String)
    (held : dir.files (getPath name.key) = some (.data (ledger.image order now))) :
    storedTasks name dir = ledger.tasks.rows.map fun row => (row.1, .object row.2.toDict) := by
  unfold storedTasks
  rw [held]
  rfl

theorem blank_addTask :
    ((blank name).addTask dir task false weather).2 = ((withFirst name task).save dir weather).2 :=
  rfl

/-- After a failed opening the first task added and saved is all that is stored. -/
theorem first_replaces (healthy : weather.fault = none) :
    storedTasks name ((blank name).addTask dir task false weather).2.2 =
      [(task.taskId, .object task.record.toDict)] := by
  have held := (save_file (withFirst name task) [.text task.taskId] dir weather rfl healthy).2
  rw [blank_addTask, storedTasks_image name _ (withFirst name task) _ _ held]
  rfl

def plainAddition (taskId : String) : Addition :=
  ⟨plainTask taskId, false, calm⟩

theorem longer_differs (text : String) : text ≠ text ++ "'" := by
  intro same
  have lengths := congrArg String.length same
  simp at lengths

/-- A stored ledger whose opening fails keeps its tasks exactly when it had none
that could be read. -/
theorem failed_opening_keeps_iff (name : LedgerName) (dir : Directory Json) (readable : Bool)
    (now : String) :
    (openingFails name dir readable now = true →
      KeepsStored name dir (load name dir readable now)) ↔
    (Sound name dir readable ∨ ∀ item ∈ storedTasks name dir, ¬ WellFormed item) := by
  constructor
  · intro keeps
    by_contra neither
    obtain ⟨unsound, some⟩ := not_or.mp neither
    push Not at some
    obtain ⟨item, stored, wellFormed⟩ := some
    have failed := (openingFails_iff name dir readable now).mpr unsound
    have kept := keeps failed [plainAddition (item.1 ++ "'")] item stored wellFormed
    rw [load_failed name dir readable now failed, addAll, addAll, plainAddition,
      first_replaces name dir _ _ rfl, List.mem_singleton] at kept
    exact longer_differs item.1 (congrArg Prod.fst kept)
  · rintro (sound | unreadable) failed
    · exact absurd sound ((openingFails_iff name dir readable now).mp failed)
    · intro additions item stored wellFormed
      exact absurd wellFormed (unreadable item stored)

def oddEntry : Json :=
  .object [("task_id", .text "odd"), ("description", .text ""), ("task_type", .text "autonomous"),
    ("execution_mode", .text "parallel"), ("status", .text "halted")]

def keptEntry : Json := .object (plainTask "kept").record.toDict

def halfRead : Directory Json where
  files := Function.update (fun _ => none) "ledger_a_b.json"
    (some (.data (.object [("tasks", .object [("kept", keptEntry), ("odd", oddEntry)])])))
  marks := fun _ => false

/-- One unknown status: the ledger opens empty, and adding a task wipes the good one. -/
theorem one_bad_entry_wipes : openingFails ⟨"a", "b"⟩ halfRead true "" = true ∧
    (storedTasks ⟨"a", "b"⟩ halfRead).map Prod.fst = ["kept", "odd"] ∧
    (storedTasks ⟨"a", "b"⟩
      ((load ⟨"a", "b"⟩ halfRead true "").addAll halfRead [plainAddition "new"]).2).map Prod.fst
        = ["new"] ∧
    ¬ KeepsStored ⟨"a", "b"⟩ halfRead (load ⟨"a", "b"⟩ halfRead true "") := by
  have failed : openingFails ⟨"a", "b"⟩ halfRead true "" = true := by decide +kernel
  have before : (storedTasks ⟨"a", "b"⟩ halfRead).map Prod.fst = ["kept", "odd"] := by
    decide +kernel
  have after : (storedTasks ⟨"a", "b"⟩
      ((load ⟨"a", "b"⟩ halfRead true "").addAll halfRead [plainAddition "new"]).2).map Prod.fst
        = ["new"] := by
    rfl
  have stored : ("kept", keptEntry) ∈ storedTasks ⟨"a", "b"⟩ halfRead := by
    have path : getPath (LedgerName.key ⟨"a", "b"⟩) = "ledger_a_b.json" := by decide +kernel
    simp [storedTasks, path, halfRead, Fields.getD]
  have wellFormed : WellFormed ("kept", keptEntry) := by
    intro now
    have read := readTask_written now ("kept", (plainTask "kept").record)
    exact Option.isSome_of_eq_some read
  have lost : ¬ KeepsStored ⟨"a", "b"⟩ halfRead (load ⟨"a", "b"⟩ halfRead true "") := by
    intro keeps
    have kept := keeps [plainAddition "new"] _ stored wellFormed
    have name := List.mem_map_of_mem (f := Prod.fst) kept
    rw [after] at name
    simp at name
  exact ⟨failed, before, after, lost⟩

end OpenLedger

end Hartos
