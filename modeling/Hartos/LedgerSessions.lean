import Hartos.HistoryRuns

/-!
One ledger and the storage behind it. Every backend but `InMemoryBackend` keeps a
copy of what it is given. That one copies the outer dictionary alone, so that its
records hold the very lists of the tasks they were made from, and a load hands
these lists, and the list of the order, back to the ledger: what a method appends
without a save is in the storage too, beside a status that is not. The dictionary
of the context is shared likewise and left out. Nobody holds on to a task object
from before a load, nor to a ledger from before a restart.
-/
namespace Hartos
open TaskStatus KeyedTable

/-- The record with the lists of the task it shares them with. No method assigns to one of these,
they are only added to and taken from. -/
def Task.sharing (record live : Task) : Task :=
  { record with
    stateHistory := live.stateHistory
    retryErrors := live.retryErrors
    childTaskIds := live.childTaskIds
    siblingTaskIds := live.siblingTaskIds
    dependentTaskIds := live.dependentTaskIds
    messagesToDependents := live.messagesToDependents
    receivedMessages := live.receivedMessages
    blockedBy := live.blockedBy }

namespace SmartLedger
variable (ledger : SmartLedger) (replaced : List TaskId)

def sharedRecord (record : Task) : Task :=
  if record.taskId ∈ replaced then record
  else match ledger.getTask record.taskId with
    | none => record
    | some task => record.sharing task

theorem sharedRecord_keeps (record : Task) :
    (ledger.sharedRecord replaced record).taskId = record.taskId ∧
      (ledger.sharedRecord replaced record).status = record.status := by
  unfold sharedRecord
  split
  · exact ⟨rfl, rfl⟩
  · split
    · exact ⟨rfl, rfl⟩
    · exact ⟨rfl, rfl⟩

/-- What a storage holds whose records share their lists with the tasks of the ledger, save those
under the ids of `replaced`. -/
def sharedImage (sharesOrder : Bool) (image : LedgerImage) : LedgerImage where
  taskOrder := if sharesOrder then ledger.taskOrder else image.taskOrder
  tasks :=
    { rows := image.tasks.rows.map (ledger.sharedRecord replaced)
      unique := by
        rw [List.map_map]
        have same : Task.taskId ∘ ledger.sharedRecord replaced = Task.taskId :=
          funext fun record => (ledger.sharedRecord_keeps replaced record).1
        rw [same]
        exact image.tasks.unique }

def withStored (stored : Option LedgerImage) : SmartLedger :=
  { ledger with backend := { ledger.backend with stored := stored } }

/-- `backend.stored` is the storage as it was last written or read, `storage` what it holds by now.
The lists of a record are those of the task of its id, unless that task was `replaced`. -/
structure Session where
  ledger : SmartLedger
  inMemory : Bool
  storage : Option LedgerImage
  replaced : List TaskId
  sharesOrder : Bool
  -- The ids of the tasks that this process has created.
  created : List TaskId

inductive Storage where
  | copying (verdict : Nat → Verdict)
  | inMemory

def LedgerOperation.reads : LedgerOperation → Bool
  | .reload readable | .restart readable => readable
  | _ => false

def LedgerOperation.opens : LedgerOperation → Bool
  | .reload _ | .restart _ => true
  | _ => false

def LedgerOperation.entered (now : Time) (operation : LedgerOperation) : List TaskId :=
  match operation.addedTask with
  | some task => if ledger.acceptsId task.taskId then [task.taskId] else []
  | none => operation.mintedIds ledger now

namespace Session

def opened : Storage → Session
  | .copying verdict => ⟨SmartLedger.opened verdict, false, none, [], false, []⟩
  | .inMemory => ⟨SmartLedger.opened fun _ => .accepted, true, none, [], false, []⟩

variable (session : Session) (call : LedgerCall)

def creates : List TaskId :=
  match call.operation with
  | .restart _ => []
  | operation => session.created ++ operation.entered session.ledger call.now

def shareStep : Session :=
  let reads := call.operation.reads
  let after :=
    (session.ledger.withStored (if reads then session.storage else none)).perform call
  match after.backend.stored with
  -- The storage was written, or it was read.
  | some image =>
      { session with
        ledger := after
        storage := some (after.sharedImage [] false image)
        replaced := []
        sharesOrder := reads
        created := session.creates call }
  | none =>
      let replaced := session.replaced ++ call.operation.entered session.ledger call.now
      let sharesOrder := session.sharesOrder && !call.operation.opens
      { session with
        ledger := after.withStored session.ledger.backend.stored
        storage := session.storage.map (after.sharedImage replaced sharesOrder)
        replaced := replaced
        sharesOrder := sharesOrder
        created := session.creates call }

def step : Session :=
  if session.inMemory then session.shareStep call
  else
    let after := session.ledger.perform call
    { session with
      ledger := after, storage := after.backend.stored, created := session.creates call }

end Session

structure Mirrors (written now : LedgerImage) : Prop where
  order : written.taskOrder <+: now.taskOrder
  tasks : Table.Evolves (fun old new => new.status = old.status) written.tasks now.tasks

theorem Mirrors.refl (image : LedgerImage) : Mirrors image image where
  order := List.prefix_refl _
  tasks := List.forall₂_same.mpr fun _ _ => ⟨rfl, rfl⟩

theorem Mirrors.trans {first second third : LedgerImage} (one : Mirrors first second)
    (two : Mirrors second third) : Mirrors first third where
  order := one.order.trans two.order
  tasks := one.tasks.trans (fun _ _ _ left right => right.trans left) two.tasks

theorem sharedImage_mirrors (ledger : SmartLedger) (replaced : List TaskId) (sharesOrder : Bool)
    (image : LedgerImage)
    (extends_ : sharesOrder = true → image.taskOrder <+: ledger.taskOrder) :
    Mirrors image (ledger.sharedImage replaced sharesOrder image) := by
  constructor
  · unfold sharedImage
    dsimp only
    split
    next shares => exact extends_ shares
    next => exact List.prefix_refl _
  · apply List.forall₂_map_right_iff.mpr
    apply List.forall₂_same.mpr
    intro record _
    have keeps := ledger.sharedRecord_keeps replaced record
    exact ⟨keeps.1.symm, keeps.2⟩

-- Nothing but a load shortens the order.
theorem perform_order (ledger : SmartLedger) (call : LedgerCall)
    (stays : call.operation.opens = false) :
    ledger.taskOrder <+: (ledger.perform call).taskOrder := by
  cases perform_ends ledger call with
  | added task deferSave handed ends =>
    rw [ends]
    unfold addTask insertTask
    split
    next => exact List.prefix_refl _
    next inserted put =>
      split at put
      · cases put
        have listed : ledger.taskOrder <+: (if task.taskId ∈ ledger.taskOrder then ledger.taskOrder
            else ledger.taskOrder ++ [task.taskId]) := by
          split
          · exact List.prefix_refl _
          · exact List.prefix_append _ _
        cases deferSave with
        | true => exact listed
        | false => exact listed
      · cases put
  | cleared _ ends =>
    rw [ends]
    exact List.prefix_refl _
  | reloaded readable asked _ =>
    rw [asked] at stays
    cases stays
  | restarted readable asked _ =>
    rw [asked] at stays
    cases stays
  | worked _ ends =>
    rw [ends.taskOrder]

/-- What a load read is the order of the ledger by then, and the storage as it was. -/
theorem perform_reads (ledger : SmartLedger) (call : LedgerCall)
    (reads : call.operation.reads = true) :
    (ledger.perform call).backend = ledger.backend ∧
      ∀ image, ledger.backend.stored = some image →
        (ledger.perform call).image = image := by
  obtain ⟨operation, now, host⟩ := call
  cases operation with
  | reload readable =>
    cases readable with
    | false => cases reads
    | true =>
      unfold perform reload
      dsimp only
      rw [if_pos rfl]
      cases ledger.backend.stored with
      | none => exact ⟨rfl, nofun⟩
      | some saved =>
        refine ⟨rfl, ?_⟩
        rintro image rfl'
        cases rfl'
        rfl
  | restart readable =>
    cases readable with
    | false => cases reads
    | true =>
      unfold perform restart load
      dsimp only
      rw [if_pos rfl]
      cases ledger.backend.stored with
      | none => exact ⟨rfl, nofun⟩
      | some saved =>
        refine ⟨rfl, ?_⟩
        rintro image rfl'
        cases rfl'
        rfl
  | _ => cases reads

def histories (image : LedgerImage) : List (List HistoryEntry) :=
  image.tasks.rows.map Task.stateHistory

-- A record keeps its status, so one whose history is as it was written is still a run.
theorem Mirrors.valid {written now : LedgerImage} (mirrors : Mirrors written now)
    (same : histories now = histories written) (valid : TableValid written.tasks) :
    TableValid now.tasks := by
  have rows : Table.Evolves (fun old new : Task =>
      new.status = old.status ∧ new.stateHistory = old.stateHistory) written.tasks now.tasks := by
    have pairs := mirrors.tasks
    unfold histories at same
    unfold Table.Evolves at pairs ⊢
    generalize written.tasks.rows = left at same pairs ⊢
    generalize now.tasks.rows = right at same pairs ⊢
    -- The rows of both stand one beside the other.
    induction pairs with
    | nil => exact List.Forall₂.nil
    | cons head _ ih =>
      obtain ⟨first, rest⟩ := List.cons.inj same
      exact List.Forall₂.cons ⟨head.1, head.2, first⟩ (ih rest)
  intro taskId task found
  obtain ⟨old, there, status, history⟩ := rows.get?_origin taskId task found
  have run := valid taskId old there
  unfold Task.ValidHistory at run ⊢
  rwa [status, history]

namespace Session

structure Sound (session : Session) : Prop where
  absent : session.storage = none → session.ledger.backend.stored = none
  mirrors : ∀ image, session.storage = some image →
    ∃ written, session.ledger.backend.stored = some written ∧ Mirrors written image
  copies : session.inMemory = false →
    session.storage = session.ledger.backend.stored ∧ session.sharesOrder = false
  order : session.sharesOrder = true →
    ∀ image, session.storage = some image → image.taskOrder = session.ledger.taskOrder

theorem opened_sound (storage : Storage) : Sound (opened storage) := by
  cases storage with
  | copying verdict => exact ⟨fun _ => rfl, nofun, fun _ => ⟨rfl, rfl⟩, nofun⟩
  | inMemory => exact ⟨fun _ => rfl, nofun, nofun, nofun⟩

variable (session : Session) (call : LedgerCall)

theorem shareStep_sound (sound : Sound session) (kind : session.inMemory = true) :
    Sound (session.shareStep call) := by
  unfold shareStep
  dsimp only
  generalize before : session.ledger.withStored
    (if call.operation.reads = true then session.storage else none) = met
  have apart (copying : session.inMemory = false) : False := nomatch kind.symm.trans copying
  split
  -- A load finds its records shared with the tasks it made, a save those of the tasks it wrote.
  next image written =>
    refine ⟨nofun, ?_, fun copying => (apart copying).elim, ?_⟩
    · rintro shared held
      cases held
      exact ⟨image, written, sharedImage_mirrors _ _ _ image nofun⟩
    · rintro reads shared held
      have unchanged := perform_reads met call reads
      rw [unchanged.1] at written
      cases held
      exact (congrArg LedgerImage.taskOrder (unchanged.2 image written)).symm
  -- Neither: the lists have grown, and the order may be longer.
  next =>
    have grows (stays : call.operation.opens = false) :
        session.ledger.taskOrder <+: (met.perform call).taskOrder := by
      rw [show session.ledger.taskOrder = met.taskOrder by rw [← before]; rfl]
      exact perform_order met call stays
    have both (shares : (session.sharesOrder && !call.operation.opens) = true) :
        session.sharesOrder = true ∧ call.operation.opens = false := by
      simpa using shares
    refine ⟨fun none => ?_, ?_, fun copying => (apart copying).elim, ?_⟩
    · exact sound.absent (Option.map_eq_none_iff.mp none)
    · rintro shared held
      obtain ⟨image, there, rfl⟩ := Option.map_eq_some_iff.mp held
      obtain ⟨first, written, mirrors⟩ := sound.mirrors image there
      refine ⟨first, written, mirrors.trans (sharedImage_mirrors _ _ _ image fun shares => ?_)⟩
      rw [sound.order (both shares).1 image there]
      exact grows (both shares).2
    · rintro shares shared held
      obtain ⟨image, there, rfl⟩ := Option.map_eq_some_iff.mp held
      exact if_pos shares

theorem step_sound (sound : Sound session) : Sound (session.step call) := by
  unfold step
  cases kind : session.inMemory with
  | true => exact shareStep_sound session call sound kind
  | false =>
    have copied := sound.copies kind
    refine ⟨id, fun image held => ⟨image, held, Mirrors.refl image⟩, fun _ => ⟨rfl, copied.2⟩, ?_⟩
    intro shares
    exact nomatch copied.2.symm.trans shares

/-- The storage holds the histories that were last written there, or read from there. -/
def HistoriesAsWritten : Prop :=
  session.storage.map histories = session.ledger.backend.stored.map histories

/-- No load finds a history in the storage that grew since the last save or load. -/
def LoadsAsWritten : Prop :=
  call.operation.reads = true → session.HistoriesAsWritten

instance (session : Session) (call : LedgerCall) : Decidable (LoadsAsWritten session call) :=
  inferInstanceAs (Decidable (_ → _ = _))

variable (session : Session) (call : LedgerCall)

theorem storage_valid (sound : Sound session) (valid : HistoriesValid session.ledger)
    (same : session.HistoriesAsWritten) (image : LedgerImage)
    (held : session.storage = some image) : TableValid image.tasks := by
  obtain ⟨written, there, mirrors⟩ := sound.mirrors image held
  unfold HistoriesAsWritten at same
  rw [held, there] at same
  exact mirrors.valid (Option.some.inj same) (valid.stored written there)

theorem shareStep_valid (sound : Sound session) (valid : HistoriesValid session.ledger)
    (fresh : ∀ task ∈ call.operation.addedTask, task.StartsFresh)
    (loads : LoadsAsWritten session call) : HistoriesValid (session.shareStep call).ledger := by
  have met : HistoriesValid (session.ledger.withStored
      (if call.operation.reads = true then session.storage else none)) := by
    refine ⟨valid.tasks, ?_⟩
    intro image held
    change (if call.operation.reads = true then session.storage else none) = some image at held
    split at held
    next reads => exact session.storage_valid sound valid (loads reads) image held
    next => cases held
  have after := perform_valid _ call fresh met
  unfold shareStep
  dsimp only
  split
  next => exact after
  next => exact ⟨after.tasks, valid.stored⟩

theorem step_valid (sound : Sound session) (valid : HistoriesValid session.ledger)
    (fresh : ∀ task ∈ call.operation.addedTask, task.StartsFresh)
    (loads : LoadsAsWritten session call) : HistoriesValid (session.step call).ledger := by
  unfold step
  split
  · exact session.shareStep_valid call sound valid fresh loads
  · exact perform_valid _ call fresh valid

theorem opened_valid (storage : Storage) : HistoriesValid (opened storage).ledger := by
  have starts (verdict : Nat → Verdict) : HistoriesValid (SmartLedger.opened verdict) := by
    rw [historiesValid_iff]
    apply holdsOfImages_load tableValid_empty
    intro image held
    cases held
  cases storage with
  | copying verdict => exact starts verdict
  | inMemory => exact starts fun _ => .accepted

theorem run_valid (storage : Storage) (run : List LedgerCall)
    (fresh : ∀ call ∈ run, ∀ task ∈ call.operation.addedTask, task.StartsFresh)
    (loads : StepSystem.Along step LoadsAsWritten (opened storage) run) :
    HistoriesValid (StepSystem.final step (opened storage) run).ledger := by
  have starts := StepSystem.along_of_forall step
    (fun call => ∀ task ∈ call.operation.addedTask, task.StartsFresh) run fresh (opened storage)
  have held := StepSystem.final_of_invariant step
    (fun session => Sound session ∧ HistoriesValid session.ledger)
    (fun session call => (∀ task ∈ call.operation.addedTask, task.StartsFresh) ∧
      LoadsAsWritten session call)
    (fun session call inv met => ⟨session.step_sound call inv.1,
      session.step_valid call inv.1 inv.2 met.1 met.2⟩)
    run (opened storage) ⟨opened_sound storage, opened_valid storage⟩
    (StepSystem.along_and step _ _ run (opened storage) starts loads)
  exact held.2

end Session

def FollowsTable (task : Task) : Prop :=
  (task.stateHistory.getLast?).map HistoryEntry.status = some task.status ∧
    ∀ earlier later, [earlier, later] <:+: task.stateHistory →
      later.previousStatus = some earlier.status ∧
      (transitionRefusalBetween earlier.status later.status = none ∨
        (earlier.status = .completed ∧ later.status = .pending)) ∧
      isFinal earlier.status = false ∧
      (earlier.status = .failed → later.status = .completed ∨ later.status = .terminated)

/-- In every run that never loads from an `InMemoryBackend` a history that grew since it was last
saved, every task's history is a run of the transition table: each entry names the status of the one
before it, the last names the task's status, no step leaves a final status, and a FAILED task only
goes on to COMPLETED or TERMINATED. -/
theorem histories_follow_the_table (storage : Storage) (run : List LedgerCall)
    (fresh : ∀ call ∈ run, ∀ task ∈ call.operation.addedTask, task.StartsFresh)
    (loads : StepSystem.Along Session.step Session.LoadsAsWritten (Session.opened storage) run)
    (taskId : TaskId) (task : Task)
    (found : (StepSystem.final Session.step (Session.opened storage) run).ledger.getTask taskId =
      some task) : FollowsTable task := by
  have valid := (Session.run_valid storage run fresh loads).tasks taskId task found
  constructor
  · exact valid.last
  · intro earlier later adjacent
    have follows := valid.step earlier later adjacent
    refine ⟨follows.1, follows.2, ?_, ?_⟩
    · have stays : ¬ isFinal earlier.status = true :=
        valid.stays (fun status => isFinal status = true)
          (fun status next final => final_stuck status next final) earlier later adjacent
      simpa using stays
    · intro failed
      exact failed_moves later.status (failed ▸ follows.2)

def calledAt (now : Time) (operation : LedgerOperation) : LedgerCall :=
  ⟨operation, now, sampleHost⟩

def rerunCalls : List LedgerCall :=
  [calledAt 1 (.addTask (Task.create "a" "work" .autonomous 0) false),
    calledAt 2 (.updateTaskStatus "a" { status := .inProgress }),
    calledAt 3 (.completeTask "a" none),
    calledAt 4 (.reopenTask "a" "next run" false),
    calledAt 5 (.restart true),
    calledAt 6 (.method "a" (.cancel "no longer wanted"))]

def reran (run : List LedgerCall) : Task :=
  ((StepSystem.final Session.step (Session.opened .inMemory) run).ledger.getTask "a").getD
    (Task.create "a" "work" .autonomous 0)

theorem rerun_follows_the_table : FollowsTable (reran rerunCalls) := by
  refine histories_follow_the_table .inMemory rerunCalls ?_ (by decide) "a" (reran rerunCalls) ?_
  · intro call member task added
    simp only [rerunCalls, List.mem_cons, List.not_mem_nil, or_false] at member
    rcases member with rfl | rfl | rfl | rfl | rfl | rfl <;> cases added
    exact ⟨_, rfl, rfl⟩
  · decide

example : (reran rerunCalls).stateHistory.map HistoryEntry.status =
    [.pending, .inProgress, .completed, .pending, .cancelled] := by decide

/-- A task is started and the ledger loaded again: the backend never heard of the start, yet the
history it gives back ends with it. -/
theorem shared_history_outruns_status :
    let task := reran [calledAt 1 (.addTask (Task.create "a" "work" .autonomous 0) false),
      calledAt 2 (.method "a" (.start "begin")), calledAt 3 (.reload true)]
    task.status = .pending ∧ task.stateHistory.getLast?.map HistoryEntry.status = some .inProgress ∧
      ¬ FollowsTable task := by
  intro task
  have last : task.stateHistory.getLast?.map HistoryEntry.status = some .inProgress := by decide
  have status : task.status = .pending := by decide
  refine ⟨status, last, ?_⟩
  intro follows
  have same := follows.1
  rw [last, status] at same
  cases same

end SmartLedger
end Hartos
