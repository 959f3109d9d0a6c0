import Hartos.DataIntegrity
import Hartos.KeyedGroups
import Hartos.TaskRecord
import Mathlib.Data.String.Basic

/-!
Which session of an agent a new run attaches to. The ledger directory is read whole,
its tasks are grouped by prompt, session and flow, and the newest session of this
agent that passes the filters and has a task left open is resumed. A file that does
not parse is skipped; one that parses to something else ends the reading.
-/
namespace Hartos.ResumableSession
open KeyedGroups TaskStatus

/-- What is left to Python: `str` of a value that is no text, `lower`, `int` of a text,
the digits of `\d`, and `<` on two arrays. `none` is an exception. -/
structure Python where
  str : Json → String
  lower : String → String
  int : String → Option Int
  isDigit : Char → Bool
  lessItems : List Json → List Json → Option Bool

/-- A file of the directory; `none` where reading or parsing it fails. -/
structure LedgerFile where
  name : String
  contents : Option Json

/-- The regular expression `^ledger_(.+?)_(.+?)\.json$`. The agent ends at the first
underscore after its first character; a dot matches no newline. -/
def parseName (name : String) : Option (String × String) :=
  let chars := name.toList
  if "ledger_".toList.isPrefixOf chars && ".json".toList.isSuffixOf chars then
    match (chars.drop 7).take (chars.length - 12) with
    | first :: rest =>
        match rest.dropWhile (· ≠ '_') with
        | _ :: session =>
            if session = [] ∨ '\n' ∈ first :: rest then none
            else some (String.ofList (first :: rest.takeWhile (· ≠ '_')), String.ofList session)
        | [] => none
    | [] => none
  else none

example : parseName "ledger_123_goal_abc.json" = some ("123", "goal_abc") := by decide +kernel

/-- A value as a dictionary key: `True` is the key 1. -/
inductive DictKey where
  | number (n : ℚ)
  | text (s : String)
  deriving DecidableEq

def asNumber : Json → Option ℚ
  | .bool flag => some (if flag then 1 else 0)
  | .number n => some n
  | _ => none

/-- `none` is the TypeError of an unhashable value. -/
def DictKey.ofJson (value : Json) : Option DictKey :=
  match value, asNumber value with
  | _, some n => some (.number n)
  | .text s, none => some (.text s)
  | _, none => none

structure Entry where
  prompt : DictKey
  session : String
  flow : DictKey
  action : Json
  task : Fields

section Reading
variable (python : Python)

def lastPart (taskId : String) : String :=
  String.ofList (taskId.toList.reverse.takeWhile (· ≠ '_')).reverse

/-- `action_N` of a legacy task is N; other ids are filed under -1. -/
def recipeAction (taskId : String) (task : Fields) : Json :=
  match task.get "recipe_action_id" with
  | .null => .number ((python.int (lastPart taskId)).getD (-1) : Int)
  | action => action

def recipePrompt (agent : String) (task : Fields) : Option DictKey :=
  DictKey.ofJson ((task.get "recipe_prompt_id").orElse (.text agent))

def recipeFlow (task : Fields) : Option DictKey :=
  match task.get "recipe_flow_id" with
  | .null => some (.number 0)
  | flow => DictKey.ofJson flow

/-- `none` where the task is no dictionary, or a key of it is not hashable. -/
def taskEntry (agent session : String) (item : String × Json) : Option Entry :=
  match item.2 with
  | .object task =>
      (recipePrompt agent task).bind fun prompt =>
        (recipeFlow task).map fun flow =>
          ⟨prompt, session, flow, recipeAction python item.1 task, task⟩
  | _ => none

def ledgerTasks : Json → Option (List (String × Json))
  | .object fields =>
      match (Fields.get fields "tasks").orElse (.object []) with
      | .object tasks => some tasks
      | _ => none
  | _ => none

def fileEntries (file : LedgerFile) : Option (List Entry) :=
  match parseName file.name, file.contents with
  | some (agent, session), some data =>
      (ledgerTasks data).bind fun tasks => tasks.mapM (taskEntry python agent session)
  | _, _ => some []

abbrev Row := Json × Fields

abbrev Flows := Dict DictKey (List Row)
abbrev Sessions := Dict String Flows
abbrev Groups := Dict DictKey Sessions

def addToFlow (flow : List Row) (entry : Entry) : List Row := flow ++ [(entry.action, entry.task)]

def addToFlows (flows : Flows) (entry : Entry) : Flows :=
  flows.setDefault entry.flow [] fun flow => addToFlow flow entry

def addToSessions (sessions : Sessions) (entry : Entry) : Sessions :=
  sessions.setDefault entry.session Dict.empty fun flows => addToFlows flows entry

def groupEntries (entries : List Entry) : Groups :=
  collect Entry.prompt Dict.empty addToSessions entries

def less (a b : Json) : Option Bool :=
  match asNumber a, asNumber b with
  | some x, some y => some (decide (x < y))
  | _, _ => match a, b with
    | .text s, .text t => some (decide (s < t))
    | .array xs, .array ys => python.lessItems xs ys
    | _, _ => none

def comparable (a b : Json) : Bool := (less python a b).isSome && (less python b a).isSome

def sortable (flow : List Row) : Bool :=
  decide (flow.Pairwise fun a b => comparable python a.1 b.1 = true)

def sortRows (flow : List Row) : List Row :=
  flow.insertionSort fun a b => less python b.1 a.1 ≠ some true

def allSortable (groups : Groups) : Bool :=
  groups.values.all fun sessions => sessions.values.all fun flows =>
    flows.values.all (sortable python)

def sortGroups (groups : Groups) : Groups :=
  groups.mapValues fun sessions => sessions.mapValues fun flows =>
    flows.mapValues (sortRows python)

def listGroupedByRecipeHierarchy (dir : List LedgerFile) : Option Groups :=
  (dir.mapM (fileEntries python)).bind fun entries =>
    let groups := groupEntries entries.flatten
    if allSortable python groups then some (sortGroups python groups) else none

end Reading

structure Query where
  agentId : String
  userId : Option Int
  flowId : Option Int
  actions : List Action

section Choosing
variable (python : Python) (host : Host)

def actionDescription (action : Action) : String :=
  action.description.getD (action.action.getD "")

def buildSteps (actions : List Action) : Dict String String :=
  (actions.zipIdx 1).foldl
    (fun steps action => steps.set (action.1.taskId host action.2, actionDescription action.1))
    Dict.empty

def text : Json → String
  | .text s => s
  | value => python.str value

/-- `^action_\d+$`, whose end may stand before a last newline. -/
def isBuildStepId (taskId : String) : Bool :=
  let chars := taskId.toList
  let digits := chars.drop 7
  let number := if digits.getLast? = some '\n' then digits.dropLast else digits
  "action_".toList.isPrefixOf chars && !number.isEmpty && number.all python.isDigit

def heldSteps (flow : List Row) : Dict String Json :=
  flow.foldl
    (fun held row =>
      let taskId := text python ((row.2.get "task_id").orElse (.text ""))
      if isBuildStepId python taskId then
        held.set (taskId, (row.2.get "description").orElse (.text ""))
      else held)
    Dict.empty

def isSameBuild (flow : List Row) (steps : Dict String String) : Bool :=
  let held := heldSteps python flow
  decide (held.rows.length = steps.rows.length) &&
    held.rows.all fun row => match steps.value? row.1, row.2 with
      | some step, .text s => decide (s = step)
      | _, _ => false

def terminalTaskStatuses : List String :=
  ["completed", "failed", "terminated", "user_stopped", "rolled_back"]

def statusText (task : Fields) : String :=
  python.lower (text python ((task.get "status").orElse (.text "")))

/-- `status and status not in _TERMINAL_TASK_STATUSES`. -/
def leftOpen (task : Fields) : Bool :=
  decide (statusText python task ≠ "") && decide (statusText python task ∉ terminalTaskStatuses)

def isUsers (query : Query) (session : String) : Bool :=
  match query.userId with
  | none => true
  | some userId => s!"{userId}_".toList.isPrefixOf session.toList

def flowsAsked (query : Query) (flows : Flows) : List (List Row) :=
  match query.flowId with
  | none => flows.values
  | some flowId => [(flows.value? (.number flowId)).getD []]

def canResume (query : Query) (session : String) (flows : Flows) : Bool :=
  isUsers query session &&
    (query.actions.isEmpty || (flowsAsked query flows).all fun flow =>
      isSameBuild python flow (buildSteps host query.actions)) &&
    (flowsAsked query flows).any fun flow => flow.any fun row => leftOpen python row.2

def promptSessions (groups : Groups) (query : Query) : Sessions :=
  (groups.value? (.text query.agentId)).getD Dict.empty

def findResumableSession (dir : List LedgerFile) (query : Query) : Option String :=
  match listGroupedByRecipeHierarchy python dir with
  | none => none
  | some groups =>
      (descending (promptSessions groups query).keys).find? fun session =>
        ((promptSessions groups query).value? session).any (canResume python host query session)

end Choosing

section Holding
variable (python : Python)

def hashable : Json → Bool
  | .array _ | .object _ => false
  | _ => true

def LaidOutTask (agent : String) (value : Json) : Prop :=
  ∃ task, value = .object task ∧
    hashable ((Fields.get task "recipe_prompt_id").orElse (.text agent)) = true ∧
    hashable (Fields.get task "recipe_flow_id") = true

def LaidOut (file : LedgerFile) : Prop :=
  ∀ agent session, parseName file.name = some (agent, session) →
    ∀ data, file.contents = some data →
      ∃ tasks, ledgerTasks data = some tasks ∧ ∀ item ∈ tasks, LaidOutTask agent item.2

def readable (file : LedgerFile) : List Entry :=
  match parseName file.name, file.contents with
  | some (agent, session), some data =>
      ((ledgerTasks data).getD []).filterMap (taskEntry python agent session)
  | _, _ => []

def entriesOf (dir : List LedgerFile) : List Entry := dir.flatMap (readable python)

def SameFlow (a b : Entry) : Prop := a.prompt = b.prompt ∧ a.session = b.session ∧ a.flow = b.flow

def ActionsCompare (entries : List Entry) : Prop :=
  entries.Pairwise fun a b => SameFlow a b → comparable python a.action b.action = true

structure WellFormed (dir : List LedgerFile) : Prop where
  laidOut : ∀ file ∈ dir, LaidOut file
  compare : ActionsCompare python (entriesOf python dir)

def Malformed (file : LedgerFile) : Prop :=
  file.contents = none ∨ ¬ LaidOut file ∨ ¬ ActionsCompare python (readable python file)

end Holding

section Scan
variable (python : Python)
variable (value : Json) (file : LedgerFile) {Item Image : Type*} (f : Item → Option Image)
  (items : List Item) (dir : List LedgerFile) (entries : List Entry)

theorem mapM_filterMap (each : ∀ item ∈ items, (f item).isSome = true) :
    items.mapM f = some (items.filterMap f) := by
  induction items with
  | nil => rfl
  | cons item rest ih =>
    obtain ⟨image, found⟩ := Option.isSome_iff_exists.mp (each item List.mem_cons_self)
    have tail := ih fun other member => each other (List.mem_cons_of_mem _ member)
    rw [List.mapM_cons, found, tail, List.filterMap_cons_some found]
    rfl

theorem mapM_raises (item : Item) (member : item ∈ items) (fails : f item = none) :
    items.mapM f = none := by
  induction items with
  | nil => cases member
  | cons first rest ih =>
    rw [List.mapM_cons]
    rcases List.mem_cons.mp member with same | later
    · rw [← same, fails]
      rfl
    · rw [ih later]
      cases f first <;> rfl

theorem ofJson_isSome (present : value ≠ .null) :
    (DictKey.ofJson value).isSome = hashable value := by
  cases value <;> simp_all [DictKey.ofJson, asNumber, hashable]

theorem orElse_ne_null (agent : String) : value.orElse (.text agent) ≠ .null := by
  intro null
  by_cases truthy : value.truthy = true
  · rw [Json.orElse, if_pos truthy] at null
    rw [null] at truthy
    cases truthy
  · rw [Json.orElse, if_neg truthy] at null
    cases null

theorem recipeFlow_isSome (task : Fields) :
    (recipeFlow task).isSome = hashable (Fields.get task "recipe_flow_id") := by
  unfold recipeFlow
  split
  next null => rw [null]; rfl
  next present => exact ofJson_isSome _ present

theorem taskEntry_isSome (agent session : String) (item : String × Json) :
    (taskEntry python agent session item).isSome = true ↔ LaidOutTask agent item.2 := by
  unfold taskEntry LaidOutTask
  cases item.2 with
  | object task =>
    have prompt := ofJson_isSome _ (orElse_ne_null (Fields.get task "recipe_prompt_id") agent)
    have flow := recipeFlow_isSome task
    simp only [Json.object.injEq, exists_eq_left', ← prompt, ← flow, recipePrompt]
    cases DictKey.ofJson ((Fields.get task "recipe_prompt_id").orElse (.text agent)) with
    | none => simp
    | some prompt => cases recipeFlow task <;> simp
  | _ => simp

theorem fileEntries_laidOut (laidOut : LaidOut file) :
    fileEntries python file = some (readable python file) := by
  unfold fileEntries readable
  split
  next agent session data named parsed =>
    obtain ⟨tasks, found, each⟩ := laidOut agent session named data parsed
    rw [found, Option.bind_some, Option.getD_some]
    apply mapM_filterMap
    intro item member
    exact (taskEntry_isSome python agent session item).mpr (each item member)
  next => rfl

theorem fileEntries_raises (otherwise : ¬ LaidOut file) : fileEntries python file = none := by
  unfold LaidOut at otherwise
  push Not at otherwise
  obtain ⟨agent, session, named, data, parsed, fails⟩ := otherwise
  have read : fileEntries python file =
      (ledgerTasks data).bind fun tasks => tasks.mapM (taskEntry python agent session) := by
    simp [fileEntries, named, parsed]
  cases found : ledgerTasks data with
  | none => rw [read, found, Option.bind_none]
  | some tasks =>
    obtain ⟨item, member, odd⟩ := fails tasks found
    rw [read, found, Option.bind_some]
    apply mapM_raises _ _ item member
    rw [← taskEntry_isSome python agent session item] at odd
    simpa using odd

theorem dir_laidOut (laidOut : ∀ file ∈ dir, LaidOut file) :
    ∃ entries, dir.mapM (fileEntries python) = some entries ∧
      entries.flatten = entriesOf python dir := by
  have each (file : LedgerFile) (member : file ∈ dir) :
      fileEntries python file = some (readable python file) :=
    fileEntries_laidOut python file (laidOut file member)
  have read := mapM_filterMap (fileEntries python) dir fun file member => by
    rw [each file member]
    rfl
  refine ⟨_, read, ?_⟩
  rw [entriesOf, List.flatMap_def, List.filterMap_congr each, ← List.filterMap_eq_map]
  rfl

def flowEntries (prompt : DictKey) (session : String) (flow : DictKey) (entries : List Entry) :
    List Entry :=
  group Entry.flow flow (group Entry.session session (group Entry.prompt prompt entries))

def rowsOf (entries : List Entry) : List Row := entries.map fun entry => (entry.action, entry.task)

theorem foldl_addToFlow (start : List Row) :
    entries.foldl addToFlow start = start ++ rowsOf entries := by
  induction entries generalizing start with
  | nil => simp [rowsOf]
  | cons entry rest ih => simp [ih, addToFlow, rowsOf]

theorem groupEntries_some (prompt : DictKey) (sessions : Sessions) :
    (groupEntries entries).value? prompt = some sessions ↔
      (∃ entry ∈ entries, entry.prompt = prompt) ∧
        sessions =
          collect Entry.session Dict.empty addToFlows (group Entry.prompt prompt entries) :=
  collect_some Entry.prompt Dict.empty addToSessions prompt entries sessions

theorem sessions_some (session : String) (flows : Flows) :
    (collect Entry.session Dict.empty addToFlows entries).value? session = some flows ↔
      (∃ entry ∈ entries, entry.session = session) ∧
        flows = collect Entry.flow [] addToFlow (group Entry.session session entries) :=
  collect_some Entry.session Dict.empty addToFlows session entries flows

theorem flows_some (flow : DictKey) (rows : List Row) :
    (collect Entry.flow [] addToFlow entries).value? flow = some rows ↔
      (∃ entry ∈ entries, entry.flow = flow) ∧ rows = rowsOf (group Entry.flow flow entries) := by
  rw [collect_some, foldl_addToFlow, List.nil_append]

theorem sublist_flow (a b : Entry) (entries : List Entry) (inside : [a, b].Sublist entries)
    (same : SameFlow a b) : [a, b].Sublist (flowEntries a.prompt a.session a.flow entries) := by
  obtain ⟨prompt, session, flow⟩ := same
  have kept := ((inside.filter fun entry => entry.prompt = a.prompt).filter
    fun entry => entry.session = a.session).filter fun entry => entry.flow = a.flow
  simpa [flowEntries, group, prompt, session, flow] using kept

theorem compare_iff :
    ActionsCompare python entries ↔
      ∀ prompt session flow,
        sortable python (rowsOf (flowEntries prompt session flow entries)) = true := by
  simp only [sortable, decide_eq_true_eq, rowsOf, List.pairwise_map]
  constructor
  · intro compare prompt session flow
    have inside : (flowEntries prompt session flow entries).Sublist entries :=
      (List.filter_sublist.trans List.filter_sublist).trans List.filter_sublist
    apply (compare.sublist inside).imp_of_mem
    intro a b first second holds
    simp only [flowEntries, mem_group] at first second
    exact holds ⟨first.1.1.2.trans second.1.1.2.symm, first.1.2.trans second.1.2.symm,
      first.2.trans second.2.symm⟩
  · intro each
    apply List.pairwise_iff_forall_sublist.mpr
    intro a b inside same
    exact List.pairwise_iff_forall_sublist.mp (each a.prompt a.session a.flow)
      (sublist_flow a b entries inside same)

theorem allSortable_iff :
    allSortable python (groupEntries entries) = true ↔ ActionsCompare python entries := by
  rw [compare_iff]
  simp only [allSortable, Dict.all_values]
  constructor
  · intro all prompt session flow
    by_cases empty : flowEntries prompt session flow entries = []
    · rw [empty]
      rfl
    · obtain ⟨entry, inside⟩ := List.exists_mem_of_ne_nil _ empty
      simp only [flowEntries, mem_group] at inside
      obtain ⟨⟨⟨member, samePrompt⟩, sameSession⟩, sameFlow⟩ := inside
      have inPrompt := (mem_group Entry.prompt prompt entries entry).mpr ⟨member, samePrompt⟩
      have inSession := (mem_group Entry.session session _ entry).mpr ⟨inPrompt, sameSession⟩
      have sorted := all prompt _
        ((groupEntries_some entries prompt _).mpr ⟨⟨entry, member, samePrompt⟩, rfl⟩)
      have sorted' := sorted session _
        ((sessions_some _ session _).mpr ⟨⟨entry, inPrompt, sameSession⟩, rfl⟩)
      exact sorted' flow _ ((flows_some _ flow _).mpr ⟨⟨entry, inSession, sameFlow⟩, rfl⟩)
  · intro each prompt sessions found session flows found' flow rows found''
    obtain ⟨_, rfl⟩ := (groupEntries_some entries prompt sessions).mp found
    obtain ⟨_, rfl⟩ := (sessions_some _ session flows).mp found'
    obtain ⟨_, rfl⟩ := (flows_some _ flow rows).mp found''
    exact each prompt session flow

theorem list_wellFormed (wellFormed : WellFormed python dir) :
    listGroupedByRecipeHierarchy python dir =
      some (sortGroups python (groupEntries (entriesOf python dir))) := by
  obtain ⟨entries, read, whole⟩ := dir_laidOut python dir wellFormed.laidOut
  have sorts := (allSortable_iff python _).mpr wellFormed.compare
  rw [listGroupedByRecipeHierarchy, read, Option.bind_some, whole]
  exact if_pos sorts

theorem list_raises (otherwise : ¬ WellFormed python dir) :
    listGroupedByRecipeHierarchy python dir = none := by
  by_cases laidOut : ∀ file ∈ dir, LaidOut file
  · obtain ⟨entries, read, whole⟩ := dir_laidOut python dir laidOut
    have mixed : ¬ allSortable python (groupEntries (entriesOf python dir)) = true := by
      intro sorts
      exact otherwise ⟨laidOut, (allSortable_iff python _).mp sorts⟩
    rw [listGroupedByRecipeHierarchy, read, Option.bind_some, whole]
    exact if_neg mixed
  · push Not at laidOut
    obtain ⟨file, member, odd⟩ := laidOut
    rw [listGroupedByRecipeHierarchy,
      mapM_raises _ _ file member (fileEntries_raises python file odd), Option.bind_none]

end Scan

section Resuming
variable (python : Python) (host : Host)

def ownEntries (query : Query) (dir : List LedgerFile) : List Entry :=
  group Entry.prompt (.text query.agentId) (entriesOf python dir)

def flowRows (own : List Entry) (session : String) (flow : DictKey) : List Row :=
  sortRows python (rowsOf (group Entry.flow flow (group Entry.session session own)))

def Asked (query : Query) (own : List Entry) (session : String) (flow : DictKey) : Prop :=
  match query.flowId with
  | none => ∃ entry ∈ own, entry.session = session ∧ entry.flow = flow
  | some flowId => flow = .number flowId

structure PassesFilters (query : Query) (own : List Entry) (session : String) : Prop where
  present : ∃ entry ∈ own, entry.session = session
  users : isUsers query session = true
  build : query.actions ≠ [] → ∀ flow, Asked query own session flow →
    isSameBuild python (flowRows python own session flow) (buildSteps host query.actions) = true

def HoldsTask (query : Query) (own : List Entry) (test : Fields → Bool) (session : String) : Prop :=
  ∃ entry ∈ own, entry.session = session ∧ Asked query own session entry.flow ∧
    test entry.task = true

def unfinished (task : Fields) : Bool :=
  decide (statusText python task ≠ "") &&
    !(Status.ofJson (.text (statusText python task))).any isTerminalState

variable (dir : List LedgerFile) (query : Query) (before : List LedgerFile) (file : LedgerFile)
  (after : List LedgerFile) (own : List Entry) (session : String)

theorem promptSessions_some (entries : List Entry) (session : String) (flows : Flows) :
    (promptSessions (sortGroups python (groupEntries entries)) query).value? session = some flows ↔
      (∃ entry ∈ group Entry.prompt (.text query.agentId) entries, entry.session = session) ∧
        flows = (collect Entry.flow [] addToFlow (group Entry.session session
          (group Entry.prompt (.text query.agentId) entries))).mapValues (sortRows python) := by
  rw [promptSessions, sortGroups, Dict.value?_mapValues]
  cases found : (groupEntries entries).value? (.text query.agentId) with
  | none =>
    have absent : ¬ ∃ entry ∈ group Entry.prompt (.text query.agentId) entries,
        entry.session = session := by
      rintro ⟨entry, member, _⟩
      obtain ⟨inside, same⟩ := (mem_group _ _ _ _).mp member
      rw [(groupEntries_some entries _ _).mpr ⟨⟨entry, inside, same⟩, rfl⟩] at found
      cases found
    simp [absent, Dict.value?_empty]
  | some sessions =>
    obtain ⟨_, rfl⟩ := (groupEntries_some entries _ sessions).mp found
    rw [Option.map_some, Option.getD_some, Dict.value?_mapValues, Option.map_eq_some_iff]
    constructor
    · rintro ⟨grouped, stored, rfl⟩
      obtain ⟨present, rfl⟩ := (sessions_some _ session grouped).mp stored
      exact ⟨present, rfl⟩
    · rintro ⟨present, rfl⟩
      exact ⟨_, (sessions_some _ session _).mpr ⟨present, rfl⟩, rfl⟩

theorem mem_flowsAsked (rows : List Row) :
    rows ∈ flowsAsked query ((collect Entry.flow [] addToFlow
        (group Entry.session session own)).mapValues (sortRows python)) ↔
      ∃ flow, Asked query own session flow ∧ rows = flowRows python own session flow := by
  unfold flowsAsked Asked
  cases query.flowId with
  | none =>
    simp only [Dict.mem_values, Dict.value?_mapValues, Option.map_eq_some_iff, flows_some,
      mem_group]
    constructor
    · rintro ⟨flow, _, ⟨⟨entry, ⟨member, same⟩, here⟩, rfl⟩, rfl⟩
      exact ⟨flow, ⟨entry, member, same, here⟩, rfl⟩
    · rintro ⟨flow, ⟨entry, member, same, here⟩, rfl⟩
      exact ⟨flow, _, ⟨⟨entry, ⟨member, same⟩, here⟩, rfl⟩, rfl⟩
  | some flowId =>
    have held : (((collect Entry.flow [] addToFlow (group Entry.session session own)).mapValues
        (sortRows python)).value? (.number flowId)).getD [] =
          flowRows python own session (.number flowId) := by
      rw [Dict.value?_mapValues, collect_value, flowRows]
      split
      next none => rw [none]; rfl
      next => rw [foldl_addToFlow]; rfl
    simp only [List.mem_singleton, held, exists_eq_left]

theorem mem_flowRows (flow : DictKey) (row : Row) :
    row ∈ flowRows python own session flow ↔
      ∃ entry ∈ own, entry.session = session ∧ entry.flow = flow ∧
        row = (entry.action, entry.task) := by
  rw [flowRows, sortRows, (List.perm_insertionSort _ _).mem_iff, rowsOf, List.mem_map]
  simp only [mem_group, and_assoc, eq_comm]

theorem holdsTask_rows (test : Fields → Bool) (session : String) :
    (∃ flow, Asked query own session flow ∧
        ∃ row ∈ flowRows python own session flow, test row.2 = true) ↔
      HoldsTask query own test session := by
  constructor
  · rintro ⟨flow, asked, row, inside, passes⟩
    obtain ⟨entry, member, same, here, rfl⟩ := (mem_flowRows python own session flow row).mp inside
    exact ⟨entry, member, same, here ▸ asked, passes⟩
  · rintro ⟨entry, member, same, asked, passes⟩
    exact ⟨entry.flow, asked, (entry.action, entry.task),
      (mem_flowRows python own session entry.flow _).mpr ⟨entry, member, same, rfl, rfl⟩, passes⟩

theorem canResume_iff (present : ∃ entry ∈ own, entry.session = session) :
    canResume python host query session ((collect Entry.flow [] addToFlow
        (group Entry.session session own)).mapValues (sortRows python)) = true ↔
      PassesFilters python host query own session ∧
        HoldsTask query own (leftOpen python) session := by
  rw [canResume, Bool.and_eq_true, Bool.and_eq_true, Bool.or_eq_true, List.isEmpty_iff,
    List.all_eq_true, List.any_eq_true, ← holdsTask_rows python query own]
  simp only [mem_flowsAsked, List.any_eq_true]
  constructor
  · rintro ⟨⟨users, build⟩, rows, ⟨flow, asked, rfl⟩, task⟩
    refine ⟨⟨present, users, ?_⟩, flow, asked, task⟩
    intro some flow' asked'
    rcases build with none | same
    · exact absurd none some
    · exact same _ ⟨flow', asked', rfl⟩
  · rintro ⟨passes, flow, asked, task⟩
    refine ⟨⟨passes.users, ?_⟩, _, ⟨flow, asked, rfl⟩, task⟩
    by_cases none : query.actions = []
    · exact Or.inl none
    · right
      rintro rows ⟨flow', asked', rfl⟩
      exact passes.build none flow' asked'

def Offers (query : Query) (own : List Entry) (test : Fields → Bool) (session : String) : Prop :=
  PassesFilters python host query own session ∧ HoldsTask query own test session

def Greatest (offered : String → Prop) (session : String) : Prop :=
  offered session ∧ ∀ other, offered other → other ≤ session

/-- Where the directory can be read, the newest session with a task left open is returned. -/
theorem find_iff (wellFormed : WellFormed python dir) (session : String) :
    findResumableSession python host dir query = some session ↔
      Greatest (Offers python host query (ownEntries python query dir) (leftOpen python))
        session := by
  have chosen (key : String) :
      (key ∈ (promptSessions (sortGroups python (groupEntries (entriesOf python dir))) query).keys ∧
        ((promptSessions (sortGroups python (groupEntries (entriesOf python dir))) query).value?
          key).any (canResume python host query key) = true) ↔
        Offers python host query (ownEntries python query dir) (leftOpen python) key := by
    rw [Dict.mem_keys]
    constructor
    · rintro ⟨⟨flows, stored⟩, resumes⟩
      rw [stored, Option.any_some] at resumes
      obtain ⟨present, rfl⟩ := (promptSessions_some python query _ key flows).mp stored
      exact (canResume_iff python host query _ key present).mp resumes
    · intro offers
      have stored := (promptSessions_some python query (entriesOf python dir) key _).mpr
        ⟨offers.1.present, rfl⟩
      refine ⟨⟨_, stored⟩, ?_⟩
      rw [stored, Option.any_some]
      exact (canResume_iff python host query _ key offers.1.present).mpr offers
  rw [findResumableSession, list_wellFormed python dir wellFormed]
  rw [find_descending, chosen, Greatest]
  apply and_congr_right
  intro _
  constructor
  · intro greatest other offers
    obtain ⟨member, resumes⟩ := (chosen other).mpr offers
    exact greatest other member resumes
  · intro greatest other member resumes
    exact greatest other ((chosen other).mp ⟨member, resumes⟩)

theorem find_raises (otherwise : ¬ WellFormed python dir) :
    findResumableSession python host dir query = none := by
  rw [findResumableSession, list_raises python dir otherwise]

theorem greatest_exists (offered : String → Prop)
    (bounded : ∀ session, offered session → ∃ entry ∈ own, entry.session = session)
    (session : String) (offers : offered session) : ∃ greatest, Greatest offered greatest := by
  classical
  cases found : (descending (own.map Entry.session)).find? fun key => decide (offered key) with
  | none =>
    have failed := (find_descending_none _ _).mp found session
      (List.mem_map.mpr (bounded session offers))
    exact absurd offers (of_decide_eq_false failed)
  | some key =>
    obtain ⟨⟨_, passes⟩, greatest⟩ := (find_descending _ _ _).mp found
    refine ⟨key, of_decide_eq_true passes, ?_⟩
    intro other offers'
    exact greatest other (List.mem_map.mpr (bounded other offers')) (decide_eq_true offers')

structure Foreign (query : Query) (file : LedgerFile) : Prop where
  named : ∀ agent session, parseName file.name = some (agent, session) → agent ≠ query.agentId
  filed : ∀ entry ∈ readable python file, entry.prompt ≠ .text query.agentId

/-- The newest session with an unfinished task is returned, `none` where there is none, and a
malformed file of another agent makes no difference. -/
structure ResumesRightly (dir : List LedgerFile) (query : Query) : Prop where
  exactly : (∃ session, findResumableSession python host dir query = some session) ↔
    ∃ session, Offers python host query (ownEntries python query dir) (unfinished python) session
  newest : ∀ session, findResumableSession python host dir query = some session →
    Greatest (Offers python host query (ownEntries python query dir) (unfinished python)) session
  isolated : ∀ before file after, dir = before ++ file :: after → Malformed python file →
    Foreign python query file →
      findResumableSession python host (before ++ after) query =
        findResumableSession python host dir query

def OfferedEither (query : Query) (own : List Entry) (session : String) : Prop :=
  Offers python host query own (leftOpen python) session ∨
    Offers python host query own (unfinished python) session

structure ReadingsAgree (dir : List LedgerFile) (query : Query) : Prop where
  newest : WellFormed python dir → ∀ session,
    Greatest (OfferedEither python host query (ownEntries python query dir)) session →
      Offers python host query (ownEntries python query dir) (leftOpen python) session ∧
        Offers python host query (ownEntries python query dir) (unfinished python) session
  nothing : ¬ WellFormed python dir → ∀ session,
    ¬ Offers python host query (ownEntries python query dir) (unfinished python) session
  -- Where one file of another agent is alone to blame.
  blamed : ¬ WellFormed python dir → ∀ before file after, dir = before ++ file :: after →
    Malformed python file → Foreign python query file → WellFormed python (before ++ after) →
      ∀ session,
        ¬ Offers python host query (ownEntries python query dir) (leftOpen python) session

theorem ownEntries_foreign (foreign : Foreign python query file) :
    ownEntries python query (before ++ file :: after) =
      ownEntries python query (before ++ after) := by
  have none : group Entry.prompt (.text query.agentId) (readable python file) = [] := by
    rw [group, List.filter_eq_nil_iff]
    intro entry member
    simpa using foreign.filed entry member
  simp only [ownEntries, entriesOf, List.flatMap_append, List.flatMap_cons, group,
    List.filter_append]
  rw [group] at none
  rw [none, List.nil_append]

theorem wellFormed_without (wellFormed : WellFormed python (before ++ file :: after)) :
    WellFormed python (before ++ after) := by
  have fewer : (entriesOf python (before ++ after)).Sublist
      (entriesOf python (before ++ file :: after)) := by
    simp only [entriesOf, List.flatMap_append, List.flatMap_cons]
    exact (List.sublist_append_right _ _).append_left _
  constructor
  · intro other member
    exact wellFormed.laidOut other
      (((List.sublist_cons_self file after).append_left before).subset member)
  · exact List.Pairwise.sublist fewer wellFormed.compare

theorem offered_present (offers : OfferedEither python host query own session) :
    ∃ entry ∈ own, entry.session = session := by
  rcases offers with left | right
  · exact left.1.present
  · exact right.1.present

theorem rightly_wellFormed (wellFormed : WellFormed python dir) :
    ResumesRightly python host dir query ↔
      ∀ session, Greatest (OfferedEither python host query (ownEntries python query dir)) session →
        Offers python host query (ownEntries python query dir) (leftOpen python) session ∧
          Offers python host query (ownEntries python query dir) (unfinished python) session := by
  have found := find_iff python host dir query wellFormed
  constructor
  · intro rightly session greatest
    have offered : ∃ other, findResumableSession python host dir query = some other := by
      rcases greatest.1 with left | right
      · obtain ⟨other, chosen⟩ :=
          greatest_exists _ _ (fun _ offers => offers.1.present) session left
        exact ⟨other, (found other).mpr chosen⟩
      · exact rightly.exactly.mpr ⟨session, right⟩
    obtain ⟨other, resumed⟩ := offered
    have byCode := (found other).mp resumed
    have bySpec := rightly.newest other resumed
    have below := greatest.2 other (Or.inl byCode.1)
    -- Whichever reading offers the session, the one resumed is at least as new.
    have above : session ≤ other := by
      rcases greatest.1 with left | right
      · exact byCode.2 session left
      · exact bySpec.2 session right
    rw [le_antisymm above below]
    exact ⟨byCode.1, bySpec.1⟩
  · intro agree
    have both (session : String)
        (offers : OfferedEither python host query (ownEntries python query dir) session) :
        ∃ newest, Greatest (OfferedEither python host query (ownEntries python query dir)) newest ∧
          findResumableSession python host dir query = some newest := by
      obtain ⟨newest, greatest⟩ := greatest_exists _ _
        (offered_present python host query _) session offers
      refine ⟨newest, greatest, (found newest).mpr ⟨(agree newest greatest).1, ?_⟩⟩
      intro other left
      exact greatest.2 other (Or.inl left)
    constructor
    · constructor
      · rintro ⟨session, resumed⟩
        obtain ⟨newest, greatest, _⟩ := both session (Or.inl ((found session).mp resumed).1)
        exact ⟨newest, (agree newest greatest).2⟩
      · rintro ⟨session, offers⟩
        obtain ⟨newest, _, resumed⟩ := both session (Or.inr offers)
        exact ⟨newest, resumed⟩
    · intro session resumed
      obtain ⟨newest, greatest, same⟩ := both session (Or.inl ((found session).mp resumed).1)
      rw [resumed] at same
      cases same
      refine ⟨(agree session greatest).2, ?_⟩
      intro other offers
      exact greatest.2 other (Or.inr offers)
    · intro before file after whole _ foreign
      subst whole
      apply Option.ext
      intro session
      rw [found session,
        find_iff python host _ query (wellFormed_without python before file after wellFormed),
        ownEntries_foreign python query before file after foreign]

/-- The right session is found exactly where the two readings of a status agree on it; a
directory that cannot be read must hold nothing to resume. -/
theorem resumes_rightly_iff (dir : List LedgerFile) (query : Query) :
    ResumesRightly python host dir query ↔ ReadingsAgree python host dir query := by
  by_cases wellFormed : WellFormed python dir
  · rw [rightly_wellFormed python host dir query wellFormed]
    constructor
    · intro agree
      exact ⟨fun _ => agree, fun otherwise => absurd wellFormed otherwise,
        fun otherwise => absurd wellFormed otherwise⟩
    · intro agree
      exact agree.newest wellFormed
  · have raises := find_raises python host dir query wellFormed
    constructor
    · intro rightly
      refine ⟨fun sound => absurd sound wellFormed, ?_, ?_⟩
      · intro _ session offers
        obtain ⟨other, resumed⟩ := rightly.exactly.mpr ⟨session, offers⟩
        rw [raises] at resumed
        cases resumed
      · intro _ before file after whole malformed foreign rest session offers
        have same := rightly.isolated before file after whole malformed foreign
        rw [whole, ownEntries_foreign python query before file after foreign] at offers
        obtain ⟨newest, greatest⟩ :=
          greatest_exists _ _ (fun _ left => left.1.present) session offers
        rw [(find_iff python host _ query rest newest).mpr greatest, raises] at same
        cases same
    · intro agree
      constructor
      · constructor
        · rintro ⟨session, resumed⟩
          rw [raises] at resumed
          cases resumed
        · rintro ⟨session, offers⟩
          exact absurd offers (agree.nothing wellFormed session)
      · intro session resumed
        rw [raises] at resumed
        cases resumed
      · intro before file after whole malformed foreign
        rw [raises]
        by_cases rest : WellFormed python (before ++ after)
        · cases resumed : findResumableSession python host (before ++ after) query with
          | none => rfl
          | some session =>
            have offers := ((find_iff python host _ query rest session).mp resumed).1
            rw [← ownEntries_foreign python query before file after foreign, ← whole] at offers
            exact absurd offers
              (agree.blamed wellFormed before file after whole malformed foreign rest session)
        · exact find_raises python host _ query rest

end Resuming

def plainPython : Python where
  str := fun _ => ""
  lower := id
  int := fun _ => none
  isDigit := Char.isDigit
  lessItems := fun _ _ => none

def storedTask (taskId status : String) (actionId : Json) : String × Json :=
  (taskId, .object [("task_id", .text taskId), ("status", .text status),
    ("recipe_flow_id", .number 0), ("recipe_action_id", actionId)])

def ledgerFile (name : String) (tasks : List (String × Json)) : LedgerFile :=
  ⟨name, some (.object [("tasks", .object tasks)])⟩

def oneTask (status : String) : LedgerFile :=
  ledgerFile "ledger_54_7_54_100.json" [storedTask "action_1" status (.number 1)]

def mixedFile : LedgerFile :=
  ledgerFile "ledger_99_7_99_100.json"
    [storedTask "action_1" "completed" (.number 1), storedTask "action_x" "completed" (.text "x")]

def rebuilt : Query := ⟨"54", some 7, some 0, []⟩

/-- A session whose one task is cancelled is resumed, one whose task was stopped is not, and
another agent's mixed ids hide a session in progress. -/
theorem cancelled_session_resumed :
    findResumableSession plainPython plainHost [oneTask "cancelled"] rebuilt = some "7_54_100" ∧
    findResumableSession plainPython plainHost [oneTask "user_stopped"] rebuilt = none ∧
    findResumableSession plainPython plainHost [oneTask "in_progress"] rebuilt =
      some "7_54_100" ∧
    findResumableSession plainPython plainHost [oneTask "in_progress", mixedFile] rebuilt = none ∧
    ¬ ResumesRightly plainPython plainHost [oneTask "cancelled"] rebuilt := by
  have resumed : findResumableSession plainPython plainHost [oneTask "cancelled"] rebuilt =
      some "7_54_100" := by decide +kernel
  have stopped : findResumableSession plainPython plainHost [oneTask "user_stopped"] rebuilt =
      none := by decide +kernel
  have alone : findResumableSession plainPython plainHost [oneTask "in_progress"] rebuilt =
      some "7_54_100" := by decide +kernel
  have hidden : findResumableSession plainPython plainHost [oneTask "in_progress", mixedFile]
      rebuilt = none := by decide +kernel
  refine ⟨resumed, stopped, alone, hidden, ?_⟩
  intro rightly
  have finished : ∀ entry ∈ ownEntries plainPython rebuilt [oneTask "cancelled"],
      unfinished plainPython entry.task = false := by decide +kernel
  obtain ⟨entry, member, _, _, task⟩ := (rightly.newest _ resumed).1.2
  rw [finished entry member] at task
  cases task

end Hartos.ResumableSession
